import CompilePlayground.Html.Mode.Body

namespace CompilePlayground.Html.Builder

/-!
# Tables and selections

In a table only the parts of a table may stand. What else comes there is put before the
table, and the missing parts are implied. In a selection only its options may stand; all
other tags are dropped.
-/

/-- Put what belongs in the body before the table. -/
def takeFostered (builder : Builder) (item : Item) : Reaction :=
  (takeInBody { builder with fostering := true } item).map fun builder =>
    { builder with fostering := false }

/-- Close what is open inside the innermost table. -/
def popToTable (builder : Builder) : Builder :=
  builder.popTo boundsTableScope

/-- Whether an element of a name is open in the innermost table. -/
def inTableScope (builder : Builder) (name : String) : Bool :=
  builder.inScope boundsTableScope (·.isNamed name)

/-- Take a character in a table: text is held back until it is known whether all of it
is white space. -/
def takeCharacterInTable (builder : Builder) (item : Item) : Reaction :=
  if builder.currentIs (·.isOneOf ["table", "tbody", "tfoot", "thead", "tr"]) then
    ({ builder with returnMode := builder.mode }).againIn .inTableText
  else
    builder.takeFostered item

/-- Take a start tag in a table. -/
def takeStartInTable (builder : Builder) (tag : Tag) : Reaction :=
  match tag.name with
  | "caption" => ((builder.popToTable.pushMarker).insert tag).doneIn .inCaption
  | "colgroup" => (builder.popToTable.insert tag).doneIn .inColumns
  | "col" => (builder.popToTable.insertImplied "colgroup").againIn .inColumns
  | "table" =>
      if builder.inTableScope "table" then
        .again (builder.popThrough (·.isNamed "table")).resetMode
      else
        .done builder
  | "input" =>
      if isHiddenField tag then .done (builder.insertVoid tag)
      else builder.takeFostered (.startTag tag)
  | "form" =>
      if !builder.inTemplateElement && builder.form?.isNone then
        let (builder, node) := builder.insertClosed .html tag
        .done { builder with form? := some node }
      else
        .done builder
  | name =>
      if ["tbody", "tfoot", "thead"].contains name then
        (builder.popToTable.insert tag).doneIn .inTableBody
      else if ["td", "th", "tr"].contains name then
        (builder.popToTable.insertImplied "tbody").againIn .inTableBody
      else if ["style", "script", "template"].contains name then
        .done (builder.insertHeadElement tag)
      else
        builder.takeFostered (.startTag tag)

/-- Take an end tag in a table. -/
def takeEndInTable (builder : Builder) (name : String) : Reaction :=
  if name == "table" then
    .done (if builder.inTableScope "table" then
      (builder.popThrough (·.isNamed "table")).resetMode else builder)
  else if ["body", "caption", "col", "colgroup", "html", "tbody", "td", "tfoot", "th",
      "thead", "tr"].contains name then
    .done builder
  else if name == "template" then
    .done builder.closeTemplate
  else
    builder.takeFostered (.endTag name)

/-- Take an item in a table. -/
def takeInTable (builder : Builder) (item : Item) : Reaction :=
  match item with
  | .character _ => builder.takeCharacterInTable item
  | .comment => .done builder.putComment
  | .startTag tag => builder.takeStartInTable tag
  | .endTag name => builder.takeEndInTable name
  | .endOfInput => builder.takeInBody item

/-- Put the text that was held back where it belongs: before the table, unless all of it
is white space. -/
def releaseText (builder : Builder) : Builder :=
  let pending := builder.pendingText
  let builder := { builder with pendingText := [] }
  if pending.isEmpty then
    builder
  else if pending.all isSpace then
    builder.putText
  else
    let builder := { builder with fostering := true }
    { pending.reverse.foldl takeCharacterInBody builder with fostering := false }

/-- Take an item after text in a table. -/
def takeInTableText (builder : Builder) (item : Item) : Reaction :=
  match item with
  | .character value =>
      .done (if value == '\x00' then builder
        else { builder with pendingText := value :: builder.pendingText })
  | _ => builder.releaseText.againIn builder.returnMode

/-- Names of the parts of a table that end what is open in another part. -/
def partNames : List String :=
  ["caption", "col", "colgroup", "tbody", "td", "tfoot", "th", "thead", "tr"]

/-- Close the caption. -/
def closeCaption (builder : Builder) : Builder :=
  ((builder.closeImplied impliedEnds).popThrough (·.isNamed "caption")).clearFormatting

/-- Take an item in a caption. -/
def takeInCaption (builder : Builder) (item : Item) : Reaction :=
  match item with
  | .startTag tag =>
      if partNames.contains tag.name then
        if builder.inTableScope "caption" then builder.closeCaption.againIn .inTable
        else .done builder
      else
        builder.takeInBody item
  | .endTag name =>
      if name == "caption" then
        if builder.inTableScope "caption" then builder.closeCaption.doneIn .inTable
        else .done builder
      else if name == "table" then
        if builder.inTableScope "caption" then builder.closeCaption.againIn .inTable
        else .done builder
      else if ["body", "col", "colgroup", "html", "tbody", "td", "tfoot", "th", "thead",
          "tr"].contains name then
        .done builder
      else
        builder.takeInBody item
  | _ => builder.takeInBody item

/-- Close a group of columns for an item that cannot stand in it. -/
def leaveColumns (builder : Builder) : Reaction :=
  if builder.currentIs (·.isNamed "colgroup") then builder.pop.againIn .inTable
  else .done builder

/-- Take an item in a group of columns. -/
def takeInColumns (builder : Builder) (item : Item) : Reaction :=
  match item with
  | .character value => if isSpace value then .done builder.putText else builder.leaveColumns
  | .comment => .done builder.putComment
  | .startTag tag =>
      match tag.name with
      | "html" => .done builder
      | "col" => .done (builder.insertVoid tag)
      | "template" => .done (builder.insertHeadElement tag)
      | _ => builder.leaveColumns
  | .endTag name =>
      if name == "colgroup" then
        if builder.currentIs (·.isNamed "colgroup") then builder.pop.doneIn .inTable
        else .done builder
      else if name == "col" then .done builder
      else if name == "template" then .done builder.closeTemplate
      else builder.leaveColumns
  | .endOfInput => builder.takeInBody item

/-- Close what is open inside the innermost part of rows. -/
def popToRows (builder : Builder) : Builder :=
  builder.popTo (·.isOneOf ["tbody", "tfoot", "thead", "template", "html"])

/-- Close the innermost part of rows for an item that cannot stand in it. -/
def leaveRows (builder : Builder) : Reaction :=
  if builder.inScope boundsTableScope (·.isOneOf ["table", "tbody", "tfoot"]) then
    builder.popToRows.pop.againIn .inTable
  else
    .done builder

/-- Take an item in a part of rows. -/
def takeInTableBody (builder : Builder) (item : Item) : Reaction :=
  match item with
  | .startTag tag =>
      if tag.name == "tr" then (builder.popToRows.insert tag).doneIn .inRow
      else if ["th", "td"].contains tag.name then
        (builder.popToRows.insertImplied "tr").againIn .inRow
      else if partNames.contains tag.name then builder.leaveRows
      else builder.takeInTable item
  | .endTag name =>
      if ["tbody", "tfoot", "thead"].contains name then
        if builder.inTableScope name then builder.popToRows.pop.doneIn .inTable
        else .done builder
      else if name == "table" then builder.leaveRows
      else if ["body", "caption", "col", "colgroup", "html", "td", "th", "tr"].contains name
      then .done builder
      else builder.takeInTable item
  | _ => builder.takeInTable item

/-- Close what is open inside the innermost row. -/
def popToRow (builder : Builder) : Builder :=
  builder.popTo (·.isOneOf ["tr", "template", "html"])

/-- Close the row for an item that cannot stand in it. -/
def leaveRow (builder : Builder) : Reaction :=
  if builder.inTableScope "tr" then builder.popToRow.pop.againIn .inTableBody
  else .done builder

/-- Take an item in a row. -/
def takeInRow (builder : Builder) (item : Item) : Reaction :=
  match item with
  | .startTag tag =>
      if ["th", "td"].contains tag.name then
        ((builder.popToRow.insert tag).pushMarker).doneIn .inCell
      else if partNames.contains tag.name then builder.leaveRow
      else builder.takeInTable item
  | .endTag name =>
      if name == "tr" then
        if builder.inTableScope "tr" then builder.popToRow.pop.doneIn .inTableBody
        else .done builder
      else if name == "table" then builder.leaveRow
      else if ["tbody", "tfoot", "thead"].contains name then
        if builder.inTableScope name then builder.leaveRow else .done builder
      else if ["body", "caption", "col", "colgroup", "html", "td", "th"].contains name then
        .done builder
      else builder.takeInTable item
  | _ => builder.takeInTable item

/-- Close the cell. -/
def closeCell (builder : Builder) : Builder :=
  ((builder.closeImplied impliedEnds).popThrough (·.isOneOf ["td", "th"])).clearFormatting

/-- Take an item in a cell. -/
def takeInCell (builder : Builder) (item : Item) : Reaction :=
  match item with
  | .startTag tag =>
      if partNames.contains tag.name then
        if builder.inScope boundsTableScope (·.isOneOf ["td", "th"]) then
          builder.closeCell.againIn .inRow
        else
          .done builder
      else
        builder.takeInBody item
  | .endTag name =>
      if ["td", "th"].contains name then
        if builder.inTableScope name then
          (((builder.closeImplied impliedEnds).popThrough
            (·.isNamed name)).clearFormatting).doneIn .inRow
        else
          .done builder
      else if ["body", "caption", "col", "colgroup", "html"].contains name then
        .done builder
      else if ["table", "tbody", "tfoot", "thead", "tr"].contains name then
        if builder.inTableScope name then builder.closeCell.againIn .inRow
        else .done builder
      else
        builder.takeInBody item
  | _ => builder.takeInBody item

/-- Close the innermost element if it has a name. -/
def popIf (builder : Builder) (name : String) : Builder :=
  if builder.currentIs (·.isNamed name) then builder.pop else builder

/-- Close the selection. -/
def closeSelect (builder : Builder) : Builder :=
  (builder.popThrough (·.isNamed "select")).resetMode

/-- Whether a selection is open. -/
def inSelectScope (builder : Builder) : Bool :=
  builder.inScope boundsSelectScope (·.isNamed "select")

/-- Close a group of options, with the option open in it. -/
def closeOptionGroup (builder : Builder) : Builder :=
  let builder :=
    match builder.stack with
    | inner :: outer :: _ =>
        if inner.isNamed "option" && outer.isNamed "optgroup" then builder.pop else builder
    | _ => builder
  builder.popIf "optgroup"

/-- Take an item in a selection. -/
def takeInSelect (builder : Builder) (item : Item) : Reaction :=
  match item with
  | .startTag tag =>
      match tag.name with
      | "option" => .done ((builder.popIf "option").insert tag)
      | "optgroup" => .done (((builder.popIf "option").popIf "optgroup").insert tag)
      | "select" => .done (if builder.inSelectScope then builder.closeSelect else builder)
      | "script" => .done (builder.insertHeadElement tag)
      | "template" => .done (builder.insertHeadElement tag)
      | name =>
          if ["input", "keygen", "textarea"].contains name && builder.inSelectScope then
            .again builder.closeSelect
          else
            .done builder
  | .endTag name =>
      match name with
      | "optgroup" => .done builder.closeOptionGroup
      | "option" => .done (builder.popIf "option")
      | "select" => .done (if builder.inSelectScope then builder.closeSelect else builder)
      | "template" => .done builder.closeTemplate
      | _ => .done builder
  | .character value => .done (if value == '\x00' then builder else builder.putText)
  | .comment => .done builder.putComment
  | .endOfInput => builder.takeInBody item

/-- Names of the parts of a table that end a selection in it. -/
def selectEnds : List String :=
  ["caption", "table", "tbody", "tfoot", "thead", "tr", "td", "th"]

/-- Take an item in a selection in a table. -/
def takeInSelectInTable (builder : Builder) (item : Item) : Reaction :=
  match item with
  | .startTag tag =>
      if selectEnds.contains tag.name then .again builder.closeSelect
      else builder.takeInSelect item
  | .endTag name =>
      if selectEnds.contains name then
        if builder.inTableScope name then .again builder.closeSelect else .done builder
      else
        builder.takeInSelect item
  | _ => builder.takeInSelect item

end CompilePlayground.Html.Builder
