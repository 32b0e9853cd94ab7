import CompilePlayground.Html.Builder

namespace CompilePlayground.Html

/-!
# Formatting elements

A formatting element that is closed by something other than its own end tag is reopened
by the content that follows. An end tag that closes one across the bounds of a block
splits it in two: one half ends before the block, the other begins inside of it.
-/

namespace FormattingEntry

/-- Whether an entry is the bound. -/
def isMarker : FormattingEntry → Bool
  | .marker => true
  | .element _ _ => false

/-- Whether an entry holds a given node. -/
def holds (node : NodeId) : FormattingEntry → Bool
  | .marker => false
  | .element id _ => id == node

/-- Whether an entry holds an element of a name. -/
def isNamed (name : String) : FormattingEntry → Bool
  | .marker => false
  | .element _ tag => tag.name == name

/-- Whether an entry comes from a tag like the given one, whatever the order of the
attributes. -/
def isLike (tag : Tag) : FormattingEntry → Bool
  | .marker => false
  | .element _ other => other.name == tag.name && other.attributes.isPerm tag.attributes

/-- Whether an entry holds an element that is not open. -/
def isClosed (stack : List OpenElement) : FormattingEntry → Bool
  | .marker => false
  | .element id _ => !stack.any (·.id == id)

end FormattingEntry

namespace Builder

/-- The formatting elements within the innermost bound, newest first. -/
def recentFormatting (builder : Builder) : List FormattingEntry :=
  builder.formatting.takeWhile (!·.isMarker)

/-- Put a bound on what is reopened. -/
def pushMarker (builder : Builder) : Builder :=
  { builder with formatting := .marker :: builder.formatting }

/-- Forget the formatting elements within the innermost bound, and the bound. -/
def clearFormatting (builder : Builder) : Builder :=
  { builder with formatting := (builder.formatting.dropWhile (!·.isMarker)).drop 1 }

/-- Forget one formatting element. -/
def forgetFormatting (builder : Builder) (node : NodeId) : Builder :=
  { builder with formatting := builder.formatting.eraseP (·.holds node) }

/-- Open an element and remember it as formatting. -/
def openFormatting (builder : Builder) (tag : Tag) : Builder :=
  let (builder, node) := builder.insertOpen .html tag
  { builder with formatting := .element node tag :: builder.formatting }

/-- Open an element like that of an entry. -/
def reopen (builder : Builder) : FormattingEntry → Builder
  | .marker => builder
  | .element _ tag => builder.openFormatting tag

/-- Reopen the formatting elements that something else has closed. -/
def reopenFormatting (builder : Builder) : Builder :=
  let closed := builder.formatting.takeWhile (·.isClosed builder.stack)
  closed.reverse.foldl reopen
    { builder with formatting := builder.formatting.drop closed.length }

/-- Open a formatting element that a tag asks for. Of four alike the oldest is
forgotten. -/
def insertFormatting (builder : Builder) (tag : Tag) : Builder :=
  let alike := builder.recentFormatting.filter (·.isLike tag)
  let builder :=
    match alike.getLast? with
    | some (.element oldest _) =>
        if 3 ≤ alike.length then builder.forgetFormatting oldest else builder
    | _ => builder
  builder.openFormatting tag

/-- Elements that no end tag of another name closes. -/
def specialNames : List String :=
  ["address", "applet", "area", "article", "aside", "base", "basefont", "bgsound",
   "blockquote", "body", "br", "button", "caption", "center", "col", "colgroup", "dd",
   "details", "dir", "div", "dl", "dt", "embed", "fieldset", "figcaption", "figure",
   "footer", "form", "frame", "frameset", "h1", "h2", "h3", "h4", "h5", "h6", "head",
   "header", "hgroup", "hr", "html", "iframe", "img", "input", "isindex", "li", "link",
   "listing", "main", "marquee", "menu", "meta", "nav", "noembed", "noframes", "noscript",
   "object", "ol", "p", "param", "plaintext", "pre", "script", "section", "select",
   "source", "style", "summary", "table", "tbody", "td", "template", "textarea", "tfoot",
   "th", "thead", "title", "tr", "track", "ul", "wbr", "xmp"]

/-- Whether no end tag of another name closes an element. -/
def isSpecial (element : OpenElement) : Bool :=
  element.isOneOf specialNames

/-- Close the innermost element of a name, unless a special one is open inside of it. -/
def closeNamed (builder : Builder) (name : String) : Builder :=
  if builder.inScope isSpecial (·.isNamed name) then
    (builder.closeImpliedExcept name).popThrough (·.isNamed name)
  else
    builder

/-- The state while a formatting element is split: the last node that was moved, whether
that is still the block itself, the elements kept open between the two halves, and the
entry that the new one is to follow. -/
structure Split where
  builder : Builder
  last : NodeId
  kept : List OpenElement
  follow? : Option NodeId

/-- Copy one element that lies between the formatting element and the block. Only the
three nearest to the block that are formatting themselves are copied. -/
def Split.copy (split : Split) (entry : OpenElement × Nat) : Split :=
  let (element, distance) := entry
  let forgotten := { split with builder := split.builder.forgetFormatting element.id }
  if 3 ≤ distance then
    forgotten
  else
    match split.builder.formatting.find? (·.holds element.id) with
    | some (.element _ tag) =>
        let (document, node) := split.builder.document.create
          (.element ⟨.html, tag.name, tag.attributes⟩)
        let formatting := split.builder.formatting.map fun entry =>
          if entry.holds element.id then .element node tag else entry
        { builder :=
            { split.builder with
            document := (document.detach split.last).append node split.last
            formatting }
          last := node
          kept := split.kept ++ [⟨node, .html, tag.name⟩]
          follow? := split.follow?.or (some node) }
    | _ => split

/-- Replace the entry of the formatting element by that of its second half, which
follows a given entry or takes the old one's place. -/
def moveEntry
    (old : NodeId)
    (new : FormattingEntry)
    (follow? : Option NodeId)
    (entries : List FormattingEntry) :
    List FormattingEntry :=
  match follow? with
  | none => entries.map fun entry => if entry.holds old then new else entry
  | some followed =>
      (entries.flatMap fun entry =>
        if entry.holds followed then [new, entry] else [entry]).eraseP (·.holds old)

/-- Split a formatting element around a block. `inner` are the elements open inside the
block, innermost first, `between` those between the block and the formatting element,
nearest to the block first, and `outer` those around the formatting element. -/
def splitAround
    (builder : Builder)
    (formattingNode : NodeId)
    (tag : Tag)
    (inner : List OpenElement)
    (block : OpenElement)
    (between : List OpenElement)
    (outer : List OpenElement) :
    Builder :=
  let split := between.zipIdx.foldl Split.copy ⟨builder, block.id, [], none⟩
  let builder := split.builder
  let builder := { builder with document := builder.document.detach split.last }
  let place :=
    match outer with
    | [] => .inside Document.root
    | ancestor :: _ => builder.placeIn ancestor
  let builder := builder.put place split.last
  let (document, node) := builder.document.create (.element ⟨.html, tag.name, tag.attributes⟩)
  let document := (document.moveChildren block.id node).append block.id node
  { builder with
    document
    formatting :=
      moveEntry formattingNode (.element node tag) split.follow? builder.formatting
    stack := inner ++ ⟨node, .html, tag.name⟩ :: block :: split.kept ++ outer }

/-- Close the newest formatting element of a name, splitting it around blocks at most
`rounds` times. -/
def closeFormattingWithin (rounds : Nat) (builder : Builder) (name : String) : Builder :=
  match rounds with
  | 0 => builder
  | rounds + 1 =>
      match builder.recentFormatting.find? (·.isNamed name) with
      | some (.element node tag) =>
          let inside := builder.stack.takeWhile (·.id != node)
          match builder.stack.drop inside.length with
          | [] => builder.forgetFormatting node
          | _ :: outer =>
              if !builder.inScope boundsScope (·.id == node) then
                builder
              else
                let outwards := inside.reverse
                match outwards.dropWhile (!isSpecial ·) with
                | [] => { builder.forgetFormatting node with stack := outer }
                | block :: inner =>
                    closeFormattingWithin rounds
                      (builder.splitAround node tag inner.reverse block
                        (outwards.takeWhile (!isSpecial ·)).reverse outer)
                      name
      | _ => builder.closeNamed name

/-- Close the newest formatting element of a name. -/
def closeFormatting (builder : Builder) (name : String) : Builder :=
  match builder.stack with
  | [] => builder
  | current :: _ =>
      if current.isNamed name && !builder.formatting.any (·.holds current.id) then
        builder.pop
      else
        closeFormattingWithin 8 builder name

end Builder

end CompilePlayground.Html
