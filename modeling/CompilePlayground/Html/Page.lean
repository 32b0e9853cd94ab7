import CompilePlayground.Html.Mode.Foreign

namespace CompilePlayground.Html

/-!
# Reading a page

`Page.read` turns the text of a page into a document. Any text is a page: what does not
fit is dropped or moved.
-/

namespace Builder

/-- Take an item, again in each mode that it leads to, at most as often as `fuel` says. -/
def settle (fuel : Nat) (builder : Builder) (item : Item) : Builder :=
  match fuel with
  | 0 => builder
  | fuel + 1 =>
      let reaction :=
        if builder.takesAsForeign item then builder.takeInForeign item
        else builder.takeInMode item
      match reaction with
      | .done builder => builder
      | .again builder => builder.settle fuel item

/-- Take an item. Every time that it is taken again a mode is left for good or an open
element is closed, and there are no more open elements than nodes. -/
def take (builder : Builder) (item : Item) : Builder :=
  builder.settle (8 * (builder.document.size + 8)) item

/-- Take a document type declaration, which counts only at the very beginning. -/
def takeDoctype (builder : Builder) (declaration : Doctype) : Builder :=
  if builder.mode == .initial then
    { builder with oldRules := declaration.asksForOldRules, mode := .beforeHtml }
  else
    builder

/-- The characters of a text without the line feed that is to be skipped. -/
def withoutLineFeed (skip : Bool) (characters : List Char) : List Char :=
  match skip, characters with
  | true, '\n' :: rest => rest
  | _, _ => characters

/-- Take a token. -/
def takeToken (builder : Builder) (token : Token) : Builder :=
  let skip := builder.skipLineFeed
  let builder := { builder with skipLineFeed := false }
  match token with
  | .doctype declaration => builder.takeDoctype declaration
  | .startTag tag => ({ builder with reading := .markup }).take (.startTag tag)
  | .endTag name => ({ builder with reading := .markup }).take (.endTag name)
  | .comment => builder.take .comment
  | .text characters =>
      (withoutLineFeed skip characters).foldl
        (fun builder value => builder.take (.character value)) builder
  | .fault => builder
  | .endOfInput => builder.take .endOfInput

/-- Whether a character section may stand here. -/
def allowsSections (builder : Builder) : Bool :=
  builder.currentIs (·.space != .html)

/-- Take the tokens of an input, at most as many as `fuel` says, and its end. -/
def takeInput (fuel : Nat) (builder : Builder) (input : List Char) : Builder :=
  match fuel with
  | 0 => builder
  | fuel + 1 =>
      match Lexer.next? builder.reading builder.allowsSections input with
      | none => builder.takeToken .endOfInput
      | some (token, rest) => (builder.takeToken token).takeInput fuel rest

end Builder

/-- Read the text of a page. -/
def Page.read (text : String) : Document :=
  let characters := Lexer.prepare text.toList
  (Builder.start.takeInput (characters.length + 1) characters).document

end CompilePlayground.Html
