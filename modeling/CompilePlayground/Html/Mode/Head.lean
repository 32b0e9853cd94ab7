import CompilePlayground.Html.Formatting

namespace CompilePlayground.Html.Builder

/-!
# The beginning of a page and its head

The root, the head and the body stand in every page, whether their tags are written or
not: an item that cannot stand where it comes implies the tags that are missing.
-/

/-- Elements of a head that have no content. -/
def headVoids : List String :=
  ["base", "basefont", "bgsound", "link", "meta"]

/-- Elements that may stand in a head. -/
def headNames : List String :=
  headVoids ++ ["noframes", "script", "style", "template", "title"]

/-- End tags that imply what is missing before them. -/
def implyingEnds : List String :=
  ["head", "body", "html", "br"]

/-- Open the root. -/
def openRoot (builder : Builder) (tag : Tag) : Builder :=
  (builder.insertOpen .html tag).1

/-- Take an item before anything else. A page that does not begin with a declaration
has the old rules. -/
def takeInitial (builder : Builder) (item : Item) : Reaction :=
  let old := { builder with oldRules := true, mode := .beforeHtml }
  match item with
  | .character value => if isSpace value then .done builder else .again old
  | .comment => .done (builder.putOuterComment Document.root)
  | _ => .again old

/-- Take an item before the root. -/
def takeBeforeHtml (builder : Builder) (item : Item) : Reaction :=
  let implied := (builder.openRoot ⟨"html", [], false⟩).againIn .beforeHead
  match item with
  | .character value => if isSpace value then .done builder else implied
  | .comment => .done (builder.putOuterComment Document.root)
  | .startTag tag =>
      if tag.name == "html" then (builder.openRoot tag).doneIn .beforeHead else implied
  | .endTag name => if implyingEnds.contains name then implied else .done builder
  | .endOfInput => implied

/-- Open the head. -/
def openHead (builder : Builder) (tag : Tag) : Builder :=
  let (builder, node) := builder.insertOpen .html tag
  { builder with head? := some node }

/-- Take an item before the head. -/
def takeBeforeHead (builder : Builder) (item : Item) : Reaction :=
  let implied := (builder.openHead ⟨"head", [], false⟩).againIn .inHead
  match item with
  | .character value => if isSpace value then .done builder else implied
  | .comment => .done builder.putComment
  | .startTag tag =>
      if tag.name == "html" then .done builder
      else if tag.name == "head" then (builder.openHead tag).doneIn .inHead
      else implied
  | .endTag name => if implyingEnds.contains name then implied else .done builder
  | .endOfInput => implied

/-- Open a template. -/
def openTemplate (builder : Builder) (tag : Tag) : Builder :=
  let builder := ((builder.insert tag).pushMarker).forbidFrames
  { builder with
    mode := .inTemplate
    templateModes := .inTemplate :: builder.templateModes }

/-- Close the innermost template, if one is open. -/
def closeTemplate (builder : Builder) : Builder :=
  if builder.inTemplateElement then
    let builder := (builder.closeImplied impliedTemplateEnds).popThrough (·.isNamed "template")
    let builder := builder.clearFormatting
    ({ builder with templateModes := builder.templateModes.drop 1 }).resetMode
  else
    builder

/-- Put in an element that may stand in a head. -/
def insertHeadElement (builder : Builder) (tag : Tag) : Builder :=
  match tag.name with
  | "title" => builder.insertRawText tag (.rawText "title")
  | "noframes" => builder.insertRawText tag (.rawText "noframes")
  | "style" => builder.insertRawText tag (.rawText "style")
  | "script" => builder.insertRawText tag .script
  | "template" => builder.openTemplate tag
  | _ => builder.insertVoid tag

/-- Take an item in the head. -/
def takeInHead (builder : Builder) (item : Item) : Reaction :=
  let closed := builder.pop.againIn .afterHead
  match item with
  | .character value => if isSpace value then .done builder.putText else closed
  | .comment => .done builder.putComment
  | .startTag tag =>
      if tag.name == "html" || tag.name == "head" then .done builder
      else if tag.name == "noscript" then
        .done (builder.insertRawText tag (.rawText "noscript"))
      else if headNames.contains tag.name then .done (builder.insertHeadElement tag)
      else closed
  | .endTag name =>
      if name == "head" then builder.pop.doneIn .afterHead
      else if name == "template" then .done builder.closeTemplate
      else if implyingEnds.contains name then closed
      else .done builder
  | .endOfInput => closed

/-- Put an element that belongs in the head there, although the head is closed. -/
def insertInClosedHead (builder : Builder) (tag : Tag) : Builder :=
  match builder.head? with
  | none => builder.insertHeadElement tag
  | some head =>
      (({ builder with stack := ⟨head, .html, "head"⟩ :: builder.stack }).insertHeadElement
        tag).removeOpen head

/-- Take an item between the head and the body. -/
def takeAfterHead (builder : Builder) (item : Item) : Reaction :=
  let implied := (builder.insertImplied "body").againIn .inBody
  match item with
  | .character value => if isSpace value then .done builder.putText else implied
  | .comment => .done builder.putComment
  | .startTag tag =>
      match tag.name with
      | "html" => .done builder
      | "body" => (builder.insert tag).forbidFrames.doneIn .inBody
      | "frameset" => (builder.insert tag).doneIn .inFrames
      | "head" => .done builder
      | name =>
          if headNames.contains name then .done (builder.insertInClosedHead tag) else implied
  | .endTag name =>
      if name == "template" then .done builder.closeTemplate
      else if name != "head" && implyingEnds.contains name then implied
      else .done builder
  | .endOfInput => implied

end CompilePlayground.Html.Builder
