import CompilePlayground.Html.Mode.Table

namespace CompilePlayground.Html.Builder

/-!
# Templates, frames and the end of a page
-/

/-- Take the item again in a mode that the template now holds. -/
def againInTemplate (builder : Builder) (mode : InsertionMode) : Reaction :=
  ({ builder with templateModes := mode :: builder.templateModes.drop 1 }).againIn mode

/-- Take an item at the top of a template: the first tag decides what it holds. -/
def takeInTemplate (builder : Builder) (item : Item) : Reaction :=
  match item with
  | .character _ => builder.takeInBody item
  | .comment => .done builder.putComment
  | .startTag tag =>
      let name := tag.name
      if headNames.contains name then .done (builder.insertHeadElement tag)
      else if ["caption", "colgroup", "tbody", "tfoot", "thead"].contains name then
        builder.againInTemplate .inTable
      else if name == "col" then builder.againInTemplate .inColumns
      else if name == "tr" then builder.againInTemplate .inTableBody
      else if ["td", "th"].contains name then builder.againInTemplate .inRow
      else builder.againInTemplate .inBody
  | .endTag name => .done (if name == "template" then builder.closeTemplate else builder)
  | .endOfInput => builder.takeEndOfTemplate

/-- Put a comment behind all else in the root. -/
def putRootComment (builder : Builder) : Builder :=
  match builder.stack.getLast? with
  | none => builder
  | some element => builder.putOuterComment element.id

/-- Take an item after the body. -/
def takeAfterBody (builder : Builder) (item : Item) : Reaction :=
  match item with
  | .character value =>
      if isSpace value then builder.takeInBody item else builder.againIn .inBody
  | .comment => .done builder.putRootComment
  | .startTag tag => if tag.name == "html" then .done builder else builder.againIn .inBody
  | .endTag name => if name == "html" then builder.doneIn .afterPage
      else builder.againIn .inBody
  | .endOfInput => .done builder

/-- Take an item among frames. -/
def takeInFrames (builder : Builder) (item : Item) : Reaction :=
  match item with
  | .startTag tag =>
      match tag.name with
      | "frameset" => .done (builder.insert tag)
      | "frame" => .done (builder.insertVoid tag)
      | "noframes" => .done (builder.insertHeadElement tag)
      | _ => .done builder
  | .endTag name =>
      if name == "frameset" && 1 < builder.stack.length then
        let builder := builder.pop
        if builder.currentIs (·.isNamed "frameset") then .done builder
        else builder.doneIn .afterFrames
      else
        .done builder
  | .character value => .done (if isSpace value then builder.putText else builder)
  | .comment => .done builder.putComment
  | .endOfInput => .done builder

/-- Take an item after the frames. -/
def takeAfterFrames (builder : Builder) (item : Item) : Reaction :=
  match item with
  | .startTag tag =>
      .done (if tag.name == "noframes" then builder.insertHeadElement tag else builder)
  | .endTag name =>
      if name == "html" then builder.doneIn .afterFramesPage else .done builder
  | .character value => .done (if isSpace value then builder.putText else builder)
  | .comment => .done builder.putComment
  | .endOfInput => .done builder

/-- Take an item after the page. -/
def takeAfterPage (builder : Builder) (item : Item) : Reaction :=
  match item with
  | .character value =>
      if isSpace value then builder.takeInBody item else builder.againIn .inBody
  | .comment => .done (builder.putOuterComment Document.root)
  | .startTag tag => if tag.name == "html" then .done builder else builder.againIn .inBody
  | .endTag _ => builder.againIn .inBody
  | .endOfInput => .done builder

/-- Take an item after a page of frames. -/
def takeAfterFramesPage (builder : Builder) (item : Item) : Reaction :=
  match item with
  | .character value =>
      if isSpace value then builder.takeInBody item else .done builder
  | .startTag tag =>
      .done (if tag.name == "noframes" then builder.insertHeadElement tag else builder)
  | .comment => .done (builder.putOuterComment Document.root)
  | _ => .done builder

/-- Take an item in raw text. -/
def takeInRawText (builder : Builder) (item : Item) : Reaction :=
  match item with
  | .endTag _ => builder.pop.doneIn builder.returnMode
  | .endOfInput => builder.pop.againIn builder.returnMode
  | .character _ => .done builder.putText
  | _ => .done builder

/-- Take an item in the mode that holds. -/
def takeInMode (builder : Builder) (item : Item) : Reaction :=
  match builder.mode with
  | .initial => builder.takeInitial item
  | .beforeHtml => builder.takeBeforeHtml item
  | .beforeHead => builder.takeBeforeHead item
  | .inHead => builder.takeInHead item
  | .afterHead => builder.takeAfterHead item
  | .inBody => builder.takeInBody item
  | .inRawText => builder.takeInRawText item
  | .inTable => builder.takeInTable item
  | .inTableText => builder.takeInTableText item
  | .inCaption => builder.takeInCaption item
  | .inColumns => builder.takeInColumns item
  | .inTableBody => builder.takeInTableBody item
  | .inRow => builder.takeInRow item
  | .inCell => builder.takeInCell item
  | .inSelect => builder.takeInSelect item
  | .inSelectInTable => builder.takeInSelectInTable item
  | .inTemplate => builder.takeInTemplate item
  | .afterBody => builder.takeAfterBody item
  | .inFrames => builder.takeInFrames item
  | .afterFrames => builder.takeAfterFrames item
  | .afterPage => builder.takeAfterPage item
  | .afterFramesPage => builder.takeAfterFramesPage item

end CompilePlayground.Html.Builder
