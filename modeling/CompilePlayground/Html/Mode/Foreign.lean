import CompilePlayground.Html.Mode.Outer

namespace CompilePlayground.Html.Builder

/-!
# Formulas and drawings

Inside a formula or a drawing tags belong to its own language, but for the places where
the page's language may stand. A tag that only the page's language has ends what is open
of the other one.
-/

/-- Whether an item counts as part of the foreign element that is innermost. -/
def isForeignTo (element : OpenElement) (item : Item) : Bool :=
  if element.space == .html then false
  else
    match item with
    | .endOfInput => false
    | .character _ => !isFormulaText element && !isDrawingText element
    | .startTag tag =>
        !(isFormulaText element && !(["mglyph", "malignmark"].contains tag.name)) &&
          !isDrawingText element &&
          !(element.space == .math && element.name == "annotation-xml" && tag.name == "svg")
    | _ => true

/-- Whether an item is to be taken as foreign. -/
def takesAsForeign (builder : Builder) (item : Item) : Bool :=
  builder.stack.head?.any (isForeignTo · item)

/-- Start tags that only the page's language has. -/
def homeNames : List String :=
  ["b", "big", "blockquote", "body", "br", "center", "code", "dd", "div", "dl", "dt", "em",
   "embed", "h1", "h2", "h3", "h4", "h5", "h6", "head", "hr", "i", "img", "li", "listing",
   "menu", "meta", "nobr", "ol", "p", "pre", "ruby", "s", "small", "span", "strong",
   "strike", "sub", "sup", "table", "tt", "u", "ul", "var"]

/-- Whether a start tag belongs to the page's language alone. -/
def isHomeTag (tag : Tag) : Bool :=
  homeNames.contains tag.name ||
    (tag.name == "font" &&
      tag.attributes.any (["color", "face", "size"].contains ·.name))

/-- Whether the page's language may stand in an element. -/
def holdsHome (element : OpenElement) : Bool :=
  element.space == .html || isFormulaText element || isDrawingText element

/-- Take an item by the rules of the page's language, with what is foreign closed. -/
def takeAtHome (builder : Builder) (item : Item) : Reaction :=
  (builder.popTo holdsHome).takeInMode item

/-- The name of an element of a drawing, which may have capital letters. -/
def drawingName (name : String) : String :=
  if name == "foreignobject" then "foreignObject" else name

/-- Put in an element of the language of the innermost one. -/
def insertInForeign (builder : Builder) (tag : Tag) : Builder :=
  match builder.stack.head?.map OpenElement.space with
  | some .drawing => builder.insertForeign .drawing { tag with name := drawingName tag.name }
  | some .math => builder.insertForeign .math tag
  | _ => builder.insertForeign .html tag

/-- How an end tag ends a foreign element. -/
inductive ForeignEnd where
  | closes (outer : List OpenElement)
  | home
  | nothing
  deriving Repr, DecidableEq

/-- What an end tag does to some open elements of which the innermost ones are foreign.
Names are compared without regard to case. -/
def foreignEnd (name : String) (first : Bool) : List OpenElement → ForeignEnd
  | [] => .nothing
  | [_] => .nothing
  | element :: outer =>
      if !first && element.space == .html then .home
      else if element.name.toLower == name then .closes outer
      else foreignEnd name false outer

/-- Take an item as part of the foreign element that is innermost. -/
def takeInForeign (builder : Builder) (item : Item) : Reaction :=
  match item with
  | .character value =>
      let builder := builder.putText
      .done (if isSpace value || value == '\x00' then builder else builder.forbidFrames)
  | .comment => .done builder.putComment
  | .startTag tag =>
      if isHomeTag tag then builder.takeAtHome item
      else .done (builder.insertInForeign tag)
  | .endTag name =>
      if name == "br" || name == "p" then builder.takeAtHome item
      else
        match foreignEnd name true builder.stack with
        | .closes outer => .done { builder with stack := outer }
        | .home => builder.takeInMode item
        | .nothing => .done builder
  | .endOfInput => .done builder

end CompilePlayground.Html.Builder
