import CompilePlayground.Html.Document
import CompilePlayground.Html.Lexer

namespace CompilePlayground.Html

/-!
# The state of reading a page

A `Builder` holds the document so far, the elements that are still open and what decides
how the next token is taken.
-/

/-- An element that is still open. -/
structure OpenElement where
  id : NodeId
  space : Space
  name : String
  deriving Repr, DecidableEq

/-- Whether an element is one of the page's own language with a name in a list. -/
def OpenElement.isOneOf (names : List String) (element : OpenElement) : Bool :=
  element.space == .html && names.contains element.name

/-- Whether an element is the one of the page's own language with a name. -/
def OpenElement.isNamed (name : String) (element : OpenElement) : Bool :=
  element.space == .html && element.name == name

/-- What decides how a token is taken. -/
inductive InsertionMode where
  | initial
  | beforeHtml
  | beforeHead
  | inHead
  | afterHead
  | inBody
  | inRawText
  | inTable
  | inTableText
  | inCaption
  | inColumns
  | inTableBody
  | inRow
  | inCell
  | inSelect
  | inSelectInTable
  | inTemplate
  | afterBody
  | inFrames
  | afterFrames
  | afterPage
  | afterFramesPage
  deriving Repr, DecidableEq

/-- A formatting element that later content reopens, or the bound of such elements. -/
inductive FormattingEntry where
  | marker
  | element (id : NodeId) (tag : Tag)
  deriving Repr, DecidableEq

/-- A page as far as it is read. The innermost open element comes first, and so do the
newest formatting element, the innermost template and the last pending character. -/
structure Builder where
  document : Document
  mode : InsertionMode
  returnMode : InsertionMode
  templateModes : List InsertionMode
  pendingText : List Char
  stack : List OpenElement
  formatting : List FormattingEntry
  head? : Option NodeId
  form? : Option NodeId
  framesetAllowed : Bool
  fostering : Bool
  oldRules : Bool
  skipLineFeed : Bool
  reading : Reading
  deriving Repr

/-- One thing that a mode takes. -/
inductive Item where
  | startTag (tag : Tag)
  | endTag (name : String)
  | comment
  | character (value : Char)
  | endOfInput
  deriving Repr, DecidableEq

/-- What a mode makes of an item: it is done with it, or the item is to be taken again
in the mode that now holds. -/
inductive Reaction where
  | done (builder : Builder)
  | again (builder : Builder)
  deriving Repr

/-- Change the state that a reaction leaves. -/
def Reaction.map (change : Builder → Builder) : Reaction → Reaction
  | .done builder => .done (change builder)
  | .again builder => .again (change builder)

namespace Builder

/-- The state before a page. -/
def start : Builder where
  document := .empty
  mode := .initial
  returnMode := .initial
  templateModes := []
  pendingText := []
  stack := []
  formatting := []
  head? := none
  form? := none
  framesetAllowed := true
  fostering := false
  oldRules := false
  skipLineFeed := false
  reading := .markup

/-- Take the item again in a mode. -/
def againIn (builder : Builder) (mode : InsertionMode) : Reaction :=
  .again { builder with mode }

/-- Be done with the item and hold a mode from now on. -/
def doneIn (builder : Builder) (mode : InsertionMode) : Reaction :=
  .done { builder with mode }

/-! ## The open elements -/

/-- Whether the innermost open element has a property. -/
def currentIs (builder : Builder) (test : OpenElement → Bool) : Bool :=
  builder.stack.head?.any test

/-- Whether an element of a name is open. -/
def hasOpen (builder : Builder) (name : String) : Bool :=
  builder.stack.any (·.isNamed name)

/-- Whether the elements in a template are being read. -/
def inTemplateElement (builder : Builder) : Bool :=
  builder.hasOpen "template"

/-- Close the innermost open element. -/
def pop (builder : Builder) : Builder :=
  { builder with stack := builder.stack.drop 1 }

/-- Close open elements up to and including one with a property. -/
def popThrough (builder : Builder) (test : OpenElement → Bool) : Builder :=
  { builder with stack := (builder.stack.dropWhile (!test ·)).drop 1 }

/-- Close open elements until the innermost one has a property. -/
def popTo (builder : Builder) (test : OpenElement → Bool) : Builder :=
  { builder with stack := builder.stack.dropWhile (!test ·) }

/-- Take one element off the open ones, wherever it is. -/
def removeOpen (builder : Builder) (id : NodeId) : Builder :=
  { builder with stack := builder.stack.eraseP (·.id == id) }

/-- Text in a formula, where the page's own language may stand. -/
def isFormulaText (element : OpenElement) : Bool :=
  element.space == .math && ["mi", "mo", "mn", "ms", "mtext"].contains element.name

/-- A part of a drawing where the page's own language may stand. -/
def isDrawingText (element : OpenElement) : Bool :=
  element.space == .drawing && ["foreignObject", "desc", "title"].contains element.name

/-- What bounds the search for an open element. -/
def boundsScope (element : OpenElement) : Bool :=
  element.isOneOf ["applet", "caption", "html", "table", "td", "th", "marquee", "object",
    "template"] || isFormulaText element || isDrawingText element

/-- What bounds the search for an open list item. -/
def boundsItemScope (element : OpenElement) : Bool :=
  boundsScope element || element.isOneOf ["ol", "ul"]

/-- What bounds the search for an open paragraph. -/
def boundsButtonScope (element : OpenElement) : Bool :=
  boundsScope element || element.isNamed "button"

/-- What bounds the search for an open part of a table. -/
def boundsTableScope (element : OpenElement) : Bool :=
  element.isOneOf ["html", "table", "template"]

/-- What bounds the search for an open selection. -/
def boundsSelectScope (element : OpenElement) : Bool :=
  !element.isOneOf ["optgroup", "option"]

/-- Whether an open element with a property comes no later than one that bounds the
search. -/
def reaches (bounds test : OpenElement → Bool) : List OpenElement → Bool
  | [] => false
  | element :: outer => test element || (!bounds element && reaches bounds test outer)

/-- Whether an element with a property is open within bounds. -/
def inScope
    (builder : Builder)
    (bounds test : OpenElement → Bool) :
    Bool :=
  reaches bounds test builder.stack

/-- Elements of which the end may be left out. -/
def impliedEnds : List String :=
  ["dd", "dt", "li", "option", "optgroup", "p", "rb", "rp", "rt", "rtc"]

/-- Elements of which the end may be left out before the end of a template. -/
def impliedTemplateEnds : List String :=
  impliedEnds ++ ["caption", "colgroup", "tbody", "td", "tfoot", "th", "thead", "tr"]

/-- Close the elements of which the end may be left out here. -/
def closeImplied (builder : Builder) (names : List String) : Builder :=
  builder.popTo (!·.isOneOf names)

/-- Close the elements of which the end may be left out, but none of a given name. -/
def closeImpliedExcept (builder : Builder) (name : String) : Builder :=
  builder.closeImplied (impliedEnds.filter (· != name))

/-- Close the innermost paragraph and what is left open in it. -/
def closeParagraph (builder : Builder) : Builder :=
  (builder.closeImpliedExcept "p").popThrough (·.isNamed "p")

/-- Close the open paragraph, if there is one. -/
def closeOpenParagraph (builder : Builder) : Builder :=
  if builder.inScope boundsButtonScope (·.isNamed "p") then builder.closeParagraph
  else builder

/-! ## Putting elements in -/

/-- Where a new node goes. -/
inductive Place where
  | inside (parent : NodeId)
  | beforeTable (table outer : NodeId)
  deriving Repr, DecidableEq

/-- The place outside the innermost table or inside the innermost template. -/
def fosterPlace : List OpenElement → Place
  | [] => .inside Document.root
  | [element] => .inside element.id
  | element :: outer :: rest =>
      if element.isNamed "template" then .inside element.id
      else if element.isNamed "table" then .beforeTable element.id outer.id
      else fosterPlace (outer :: rest)

/-- The place for a node meant for a target. -/
def placeIn (builder : Builder) (target : OpenElement) : Place :=
  if builder.fostering && target.isOneOf ["table", "tbody", "tfoot", "thead", "tr"] then
    fosterPlace builder.stack
  else
    .inside target.id

/-- The place for a node meant for the innermost open element. -/
def currentPlace (builder : Builder) : Place :=
  match builder.stack with
  | [] => .inside Document.root
  | current :: _ => builder.placeIn current

/-- Put a node that stands nowhere at a place. -/
def put (builder : Builder) (place : Place) (node : NodeId) : Builder :=
  let document :=
    match place with
    | .inside parent => builder.document.append parent node
    | .beforeTable table outer =>
        if (builder.document.parent? table).isSome then
          builder.document.insertBefore table node
        else
          builder.document.append outer node
  { builder with document }

/-- Put text where a new node would go. -/
def putText (builder : Builder) : Builder :=
  let document :=
    match builder.currentPlace with
    | .inside parent => builder.document.appendText parent
    | .beforeTable table outer =>
        if (builder.document.parent? table).isSome then
          builder.document.insertTextBefore table
        else
          builder.document.appendText outer
  { builder with document }

/-- Put a comment where a new node would go. -/
def putComment (builder : Builder) : Builder :=
  let (document, node) := builder.document.create .comment
  ({ builder with document }).put builder.currentPlace node

/-- Put a comment behind all else in the page or in its root. -/
def putOuterComment (builder : Builder) (parent : NodeId) : Builder :=
  let (document, node) := builder.document.create .comment
  { builder with document := document.append parent node }

/-- Make an element and put it in without opening it. -/
def insertClosed (builder : Builder) (space : Space) (tag : Tag) : Builder × NodeId :=
  let (document, node) := builder.document.create (.element ⟨space, tag.name, tag.attributes⟩)
  (({ builder with document }).put builder.currentPlace node, node)

/-- Make an element, put it in and open it. -/
def insertOpen (builder : Builder) (space : Space) (tag : Tag) : Builder × NodeId :=
  let (builder, node) := builder.insertClosed space tag
  ({ builder with stack := ⟨node, space, tag.name⟩ :: builder.stack }, node)

/-- Put in an element that has no content. -/
def insertVoid (builder : Builder) (tag : Tag) : Builder :=
  (builder.insertClosed .html tag).1

/-- Put in an element of the page's own language. -/
def insert (builder : Builder) (tag : Tag) : Builder :=
  (builder.insertOpen .html tag).1

/-- Put in an element that the page only implies. -/
def insertImplied (builder : Builder) (name : String) : Builder :=
  builder.insert ⟨name, [], false⟩

/-- Rule out frames. -/
def forbidFrames (builder : Builder) : Builder :=
  { builder with framesetAllowed := false }

/-- Put in an element that holds raw text, to be read in a given way. -/
def insertRawText (builder : Builder) (tag : Tag) (reading : Reading) : Builder :=
  { builder.insert tag with
    returnMode := builder.mode
    mode := .inRawText
    reading }

/-! ## The mode that open elements ask for -/

/-- The mode of a selection within open elements. -/
def selectMode : List OpenElement → InsertionMode
  | [] => .inSelect
  | element :: outer =>
      if element.isNamed "template" then .inSelect
      else if element.isNamed "table" then .inSelectInTable
      else selectMode outer

/-- The mode that an open element asks for, if it asks for one. -/
def modeOf?
    (builder : Builder)
    (element : OpenElement)
    (outer : List OpenElement) :
    Option InsertionMode :=
  if element.space != .html then none
  else
    match element.name with
    | "select" => some (selectMode outer)
    | "td" => if outer.isEmpty then none else some .inCell
    | "th" => if outer.isEmpty then none else some .inCell
    | "tr" => some .inRow
    | "tbody" => some .inTableBody
    | "thead" => some .inTableBody
    | "tfoot" => some .inTableBody
    | "caption" => some .inCaption
    | "colgroup" => some .inColumns
    | "table" => some .inTable
    | "template" => some (builder.templateModes.headD .inTemplate)
    | "head" => if outer.isEmpty then none else some .inHead
    | "body" => some .inBody
    | "frameset" => some .inFrames
    | "html" => some (if builder.head?.isSome then .afterHead else .beforeHead)
    | _ => none

/-- The mode that the innermost of some open elements asks for. -/
def modeFor (builder : Builder) : List OpenElement → InsertionMode
  | [] => .inBody
  | element :: outer => (builder.modeOf? element outer).getD (builder.modeFor outer)

/-- Hold the mode that the open elements ask for. -/
def resetMode (builder : Builder) : Builder :=
  { builder with mode := builder.modeFor builder.stack }

end Builder

end CompilePlayground.Html
