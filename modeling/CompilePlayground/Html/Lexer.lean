import CompilePlayground.Html.Doctype
import CompilePlayground.Html.RawText
import CompilePlayground.Html.TagScan

namespace CompilePlayground.Html

/-!
# Reading tokens

`Lexer.next?` takes one token from the front of a page. How it reads depends on the
element that is open: in raw text only the end tag of the element counts, and after a
`plaintext` tag nothing does. A tag or raw text that the page does not close is dropped.
-/

/-- How the next token is to be read. -/
inductive Reading where
  | markup
  | rawText (name : String)
  | script
  | plain
  deriving Repr, DecidableEq

namespace Lexer

/-- The input after a comment whose opening dashes are read. -/
def afterComment : List Char → List Char
  | [] => []
  | '-' :: '-' :: '>' :: rest => rest
  | '-' :: '-' :: '!' :: '>' :: rest => rest
  | _ :: rest => afterComment rest

/-- The input after a comment; one that its first characters close is empty. -/
def afterWholeComment : List Char → List Char
  | '>' :: rest => rest
  | '-' :: '>' :: rest => rest
  | rest => afterComment rest

/-- Split the input after a character section. -/
def characterSection (text : List Char) : List Char → List Char × List Char
  | [] => (text.reverse, [])
  | ']' :: ']' :: '>' :: rest => (text.reverse, rest)
  | character :: rest => characterSection (character :: text) rest

/-- A tag's token, with the input after it. -/
def tag (toToken : Tag → Token) (scan : TagScan) (input : List Char) : Token × List Char :=
  match scan.run? input with
  | some (tag, rest) => (toToken tag, rest)
  | none => (.fault, [])

/-- The end tag whose name the input begins with. -/
def endTag (input : List Char) : Token × List Char :=
  tag (fun tag => .endTag tag.name) .start input

/-- What an opening bracket and an exclamation mark begin. -/
def declaration (sectionsAllowed : Bool) (input : List Char) : Token × List Char :=
  match input with
  | '-' :: '-' :: rest => (.comment, afterWholeComment rest)
  | _ =>
      if Doctype.beginsWith "doctype" input then
        let (declaration, rest) := Doctype.read (input.drop 7)
        (.doctype declaration, rest)
      else if sectionsAllowed && ['[', 'C', 'D', 'A', 'T', 'A', '['].isPrefixOf input then
        let (characters, rest) := characterSection [] (input.drop 7)
        (.text characters, rest)
      else
        (.comment, Doctype.afterBracket input)

/-- What an opening bracket begins. -/
def bracket (sectionsAllowed : Bool) (input : List Char) : Token × List Char :=
  match input with
  | '!' :: rest => declaration sectionsAllowed rest
  | '?' :: rest => (.comment, Doctype.afterBracket rest)
  | '/' :: '>' :: rest => (.fault, rest)
  | '/' :: character :: rest =>
      if character.isAlpha then endTag (character :: rest)
      else (.comment, Doctype.afterBracket (character :: rest))
  | ['/'] => (.text ['<', '/'], [])
  | character :: rest =>
      if character.isAlpha then tag .startTag .start (character :: rest)
      else (.text ['<'], character :: rest)
  | [] => (.text ['<'], [])

/-- Read markup, where a character stands for itself unless it opens a tag or a
reference. -/
def markup (sectionsAllowed : Bool) (first : Char) (rest : List Char) : Token × List Char :=
  if first == '<' then
    bracket sectionsAllowed rest
  else if first == '&' then
    let (characters, rest) := Reference.decode false rest
    (.text characters, rest)
  else
    (.text [first], rest)

/-- The token at the front of the input and the input after it. Character sections are
read as such only inside elements of other languages. -/
def next?
    (reading : Reading)
    (sectionsAllowed : Bool)
    (input : List Char) :
    Option (Token × List Char) :=
  match input with
  | [] => none
  | first :: rest =>
      match reading with
      | .markup => some (markup sectionsAllowed first rest)
      | .rawText name => some (((rawTextEnd? name.toList input).map endTag).getD (.fault, []))
      | .script => some (((scriptEnd? .outside input).map endTag).getD (.fault, []))
      | .plain => some (.text input, [])

/-- The characters of a page with one kind of line end, after those already read. -/
def unifyLines (read : List Char) : List Char → List Char
  | [] => read.reverse
  | '\r' :: '\n' :: rest => unifyLines ('\n' :: read) rest
  | '\r' :: rest => unifyLines ('\n' :: read) rest
  | character :: rest => unifyLines (character :: read) rest

/-- The characters of a page without the mark that may open it. -/
def prepare (page : List Char) : List Char :=
  match page with
  | '\uFEFF' :: rest => unifyLines [] rest
  | _ => unifyLines [] page

end Lexer

end CompilePlayground.Html
