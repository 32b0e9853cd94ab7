import CompilePlayground.Html.Mode.Head

namespace CompilePlayground.Html.Builder

/-!
# The body of a page

What a start tag does in a body hangs on the kind of its element, and so does what an
end tag does. An element of no known kind stands in the text like a word.
-/

/-- What a start tag asks for in a body. -/
inductive StartKind where
  | root
  | inHead
  | body
  | frames
  | block
  | heading
  | preformatted
  | form
  | item
  | definition
  | plainText
  | button
  | anchor
  | formatting
  | unbroken
  | object
  | table
  | void
  | input
  | parameter
  | rule
  | image
  | textArea
  | sampleText
  | frame
  | noEmbed
  | noScript
  | select
  | option
  | rubyBase
  | rubyText
  | formula
  | drawing
  | misplaced
  | other
  deriving Repr, DecidableEq

/-- The start tags of each kind. -/
def startNames : List (StartKind × List String) :=
  [(.block, ["address", "article", "aside", "blockquote", "center", "details", "dialog",
      "dir", "div", "dl", "fieldset", "figcaption", "figure", "footer", "header", "hgroup",
      "main", "menu", "nav", "ol", "p", "search", "section", "summary", "ul"]),
   (.item, ["li"]),
   (.anchor, ["a"]),
   (.formatting, ["b", "big", "code", "em", "font", "i", "s", "small", "strike", "strong",
      "tt", "u"]),
   (.heading, ["h1", "h2", "h3", "h4", "h5", "h6"]),
   (.inHead, headNames),
   (.definition, ["dd", "dt"]),
   (.preformatted, ["pre", "listing"]),
   (.table, ["table"]),
   (.void, ["area", "br", "embed", "img", "keygen", "wbr"]),
   (.input, ["input"]),
   (.parameter, ["param", "source", "track"]),
   (.rule, ["hr"]),
   (.image, ["image"]),
   (.form, ["form"]),
   (.button, ["button"]),
   (.unbroken, ["nobr"]),
   (.object, ["applet", "marquee", "object"]),
   (.textArea, ["textarea"]),
   (.sampleText, ["xmp"]),
   (.frame, ["iframe"]),
   (.noEmbed, ["noembed"]),
   (.noScript, ["noscript"]),
   (.select, ["select"]),
   (.option, ["optgroup", "option"]),
   (.rubyBase, ["rb", "rtc"]),
   (.rubyText, ["rp", "rt"]),
   (.formula, ["math"]),
   (.drawing, ["svg"]),
   (.plainText, ["plaintext"]),
   (.root, ["html"]),
   (.body, ["body"]),
   (.frames, ["frameset"]),
   (.misplaced, ["caption", "col", "colgroup", "frame", "head", "tbody", "td", "tfoot", "th",
      "thead", "tr"])]

/-- The kind of a start tag. -/
def startKind (name : String) : StartKind :=
  ((startNames.find? (·.2.contains name)).map (·.1)).getD .other

/-- Names of headings. -/
def headingNames : List String :=
  ["h1", "h2", "h3", "h4", "h5", "h6"]

/-- Put in a block. -/
def insertBlock (builder : Builder) (tag : Tag) : Builder :=
  builder.closeOpenParagraph.insert tag

/-- Whether an element keeps an open item around it from being closed. -/
def keepsItem (element : OpenElement) : Bool :=
  isSpecial element && !element.isOneOf ["address", "div", "p"]

/-- The open item of one of several names that the next item is to close. -/
def itemToClose? (names : List String) : List OpenElement → Option String
  | [] => none
  | element :: outer =>
      if element.isOneOf names then some element.name
      else if keepsItem element then none
      else itemToClose? names outer

/-- Close an element of a name with those of which the end may be left out. -/
def closeWithImplied (builder : Builder) (name : String) : Builder :=
  (builder.closeImpliedExcept name).popThrough (·.isNamed name)

/-- Put in an item of a list; the item of the same list before it ends there. -/
def insertItem (builder : Builder) (names : List String) (tag : Tag) : Builder :=
  let builder := builder.forbidFrames
  let builder :=
    match itemToClose? names builder.stack with
    | some name => builder.closeWithImplied name
    | none => builder
  builder.insertBlock tag

/-- The body, if the page has one that is open. -/
def body? (builder : Builder) : Option OpenElement :=
  match builder.stack.reverse with
  | _ :: second :: _ => if second.isNamed "body" then some second else none
  | _ => none

/-- Put frames in place of the body. -/
def replaceBodyByFrames (builder : Builder) (tag : Tag) : Reaction :=
  match builder.framesetAllowed, builder.body? with
  | true, some body =>
      let builder :=
        { builder with
          document := builder.document.detach body.id
          stack := builder.stack.drop (builder.stack.length - 1) }
      (builder.insert tag).doneIn .inFrames
  | _, _ => .done builder

/-- Put in a form, unless one is open. -/
def insertForm (builder : Builder) (tag : Tag) : Builder :=
  if builder.form?.isSome && !builder.inTemplateElement then
    builder
  else
    let (builder, node) := builder.closeOpenParagraph.insertOpen .html tag
    if builder.inTemplateElement then builder else { builder with form? := some node }

/-- Put in an anchor; an anchor before it ends there. -/
def insertAnchor (builder : Builder) (tag : Tag) : Builder :=
  let builder :=
    match builder.recentFormatting.find? (·.isNamed "a") with
    | some (.element node _) =>
        ((builder.closeFormatting "a").forgetFormatting node).removeOpen node
    | _ => builder
  builder.reopenFormatting.insertFormatting tag

/-- Whether a field is hidden. -/
def isHiddenField (tag : Tag) : Bool :=
  (valueOf? "type" tag.attributes).any (·.toLower == "hidden")

/-- Put in a void element that stands in the text. -/
def insertTextVoid (builder : Builder) (tag : Tag) : Builder :=
  builder.reopenFormatting.insertVoid tag

/-- Put in an element of another language. -/
def insertForeign (builder : Builder) (space : Space) (tag : Tag) : Builder :=
  if tag.selfClosing then (builder.insertClosed space tag).1
  else (builder.insertOpen space tag).1

/-- The mode that a selection opens. -/
def modeOfSelect (builder : Builder) : InsertionMode :=
  if [InsertionMode.inTable, .inCaption, .inTableBody, .inRow, .inCell].contains builder.mode
  then .inSelectInTable
  else .inSelect

/-- Take a start tag in the body. -/
def takeStartInBody (builder : Builder) (tag : Tag) : Reaction :=
  match startKind tag.name with
  | .root => .done builder
  | .inHead => .done (builder.insertHeadElement tag)
  | .body =>
      .done (if builder.body?.isSome && !builder.inTemplateElement then builder.forbidFrames
        else builder)
  | .frames => builder.replaceBodyByFrames tag
  | .block => .done (builder.insertBlock tag)
  | .heading =>
      let builder := builder.closeOpenParagraph
      let builder :=
        if builder.currentIs (·.isOneOf headingNames) then builder.pop else builder
      .done (builder.insert tag)
  | .preformatted =>
      .done { (builder.insertBlock tag).forbidFrames with skipLineFeed := true }
  | .form => .done (builder.insertForm tag)
  | .item => .done (builder.insertItem ["li"] tag)
  | .definition => .done (builder.insertItem ["dd", "dt"] tag)
  | .plainText => .done { builder.insertBlock tag with reading := .plain }
  | .button =>
      let builder :=
        if builder.inScope boundsScope (·.isNamed "button") then
          (builder.closeImplied impliedEnds).popThrough (·.isNamed "button")
        else
          builder
      .done (builder.reopenFormatting.insert tag).forbidFrames
  | .anchor => .done (builder.insertAnchor tag)
  | .formatting => .done (builder.reopenFormatting.insertFormatting tag)
  | .unbroken =>
      let builder := builder.reopenFormatting
      let builder :=
        if builder.inScope boundsScope (·.isNamed "nobr") then
          (builder.closeFormatting "nobr").reopenFormatting
        else
          builder
      .done (builder.insertFormatting tag)
  | .object => .done ((builder.reopenFormatting.insert tag).pushMarker).forbidFrames
  | .table =>
      let builder := if builder.oldRules then builder else builder.closeOpenParagraph
      (builder.insert tag).forbidFrames.doneIn .inTable
  | .void => .done (builder.insertTextVoid tag).forbidFrames
  | .input =>
      let builder := builder.insertTextVoid tag
      .done (if isHiddenField tag then builder else builder.forbidFrames)
  | .parameter => .done (builder.insertVoid tag)
  | .rule => .done (builder.closeOpenParagraph.insertVoid tag).forbidFrames
  | .image => .done (builder.insertTextVoid { tag with name := "img" }).forbidFrames
  | .textArea =>
      .done { (builder.insertRawText tag (.rawText "textarea")).forbidFrames with
        skipLineFeed := true }
  | .sampleText =>
      .done (builder.closeOpenParagraph.reopenFormatting.insertRawText tag
        (.rawText "xmp")).forbidFrames
  | .frame => .done (builder.insertRawText tag (.rawText "iframe")).forbidFrames
  | .noEmbed => .done (builder.insertRawText tag (.rawText "noembed"))
  | .noScript => .done (builder.insertRawText tag (.rawText "noscript"))
  | .select =>
      (builder.reopenFormatting.insert tag).forbidFrames.doneIn builder.modeOfSelect
  | .option =>
      let builder := if builder.currentIs (·.isNamed "option") then builder.pop else builder
      .done (builder.reopenFormatting.insert tag)
  | .rubyBase =>
      let builder :=
        if builder.inScope boundsScope (·.isNamed "ruby") then
          builder.closeImplied impliedEnds
        else
          builder
      .done (builder.insert tag)
  | .rubyText =>
      let builder :=
        if builder.inScope boundsScope (·.isNamed "ruby") then
          builder.closeImpliedExcept "rtc"
        else
          builder
      .done (builder.insert tag)
  | .formula => .done (builder.reopenFormatting.insertForeign .math tag)
  | .drawing => .done (builder.reopenFormatting.insertForeign .drawing tag)
  | .misplaced => .done builder
  | .other => .done (builder.reopenFormatting.insert tag)

/-- Names of blocks that their own end tag closes. -/
def blockEnds : List String :=
  ["address", "article", "aside", "blockquote", "button", "center", "details", "dialog",
   "dir", "div", "dl", "fieldset", "figcaption", "figure", "footer", "header", "hgroup",
   "listing", "main", "menu", "nav", "ol", "pre", "search", "section", "summary", "ul"]

/-- Names of formatting elements. -/
def formattingEnds : List String :=
  ["a", "b", "big", "code", "em", "font", "i", "nobr", "s", "small", "strike", "strong",
   "tt", "u"]

/-- Close a block of a name that is open in scope. -/
def closeBlock (builder : Builder) (name : String) : Builder :=
  if builder.inScope boundsScope (·.isNamed name) then
    (builder.closeImplied impliedEnds).popThrough (·.isNamed name)
  else
    builder

/-- Close the form. -/
def closeForm (builder : Builder) : Builder :=
  if builder.inTemplateElement then
    builder.closeBlock "form"
  else
    match builder.form? with
    | none => builder
    | some node =>
        let builder := { builder with form? := none }
        if builder.inScope boundsScope (·.id == node) then
          (builder.closeImplied impliedEnds).removeOpen node
        else
          builder

/-- Take an end tag in the body. -/
def takeEndInBody (builder : Builder) (name : String) : Reaction :=
  if name == "template" then
    .done builder.closeTemplate
  else if name == "body" then
    if builder.inScope boundsScope (·.isNamed "body") then builder.doneIn .afterBody
    else .done builder
  else if name == "html" then
    if builder.inScope boundsScope (·.isNamed "body") then builder.againIn .afterBody
    else .done builder
  else if blockEnds.contains name then
    .done (builder.closeBlock name)
  else if name == "form" then
    .done builder.closeForm
  else if name == "p" then
    let builder :=
      if builder.inScope boundsButtonScope (·.isNamed "p") then builder
      else builder.insertImplied "p"
    .done builder.closeParagraph
  else if name == "li" then
    .done (if builder.inScope boundsItemScope (·.isNamed "li") then
      builder.closeWithImplied "li" else builder)
  else if name == "dd" || name == "dt" then
    .done (if builder.inScope boundsScope (·.isNamed name) then
      builder.closeWithImplied name else builder)
  else if headingNames.contains name then
    .done (if builder.inScope boundsScope (·.isOneOf headingNames) then
      (builder.closeImplied impliedEnds).popThrough (·.isOneOf headingNames) else builder)
  else if formattingEnds.contains name then
    .done (builder.closeFormatting name)
  else if ["applet", "marquee", "object"].contains name then
    .done (if builder.inScope boundsScope (·.isNamed name) then
      (builder.closeBlock name).clearFormatting else builder)
  else if name == "br" then
    .done (builder.insertTextVoid ⟨"br", [], false⟩).forbidFrames
  else
    .done (builder.closeNamed name)

/-- Take a character in the body. -/
def takeCharacterInBody (builder : Builder) (value : Char) : Builder :=
  if value == '\x00' then
    builder
  else
    let builder := builder.reopenFormatting.putText
    if isSpace value then builder else builder.forbidFrames

/-- Take the end of the page in a template: it closes the innermost one. -/
def takeEndOfTemplate (builder : Builder) : Reaction :=
  if builder.inTemplateElement then
    let builder := (builder.popThrough (·.isNamed "template")).clearFormatting
    .again ({ builder with templateModes := builder.templateModes.drop 1 }).resetMode
  else
    .done builder

/-- Take an item in the body. -/
def takeInBody (builder : Builder) (item : Item) : Reaction :=
  match item with
  | .character value => .done (builder.takeCharacterInBody value)
  | .comment => .done builder.putComment
  | .startTag tag => builder.takeStartInBody tag
  | .endTag name => builder.takeEndInBody name
  | .endOfInput =>
      if builder.templateModes.isEmpty then .done builder else builder.takeEndOfTemplate

end CompilePlayground.Html.Builder
