import CompilePlayground.Html.Page
import CompilePlayground.Proofs.Html.Growing
import CompilePlayground.Proofs.Html.Tagging

namespace CompilePlayground.Html

/-!
# Reading the body of a page

While a body is read that holds blocks, list items, anchors and text, only the document, the open
elements and the formatting elements count. Each tag that is written and each text is read as one
change of those three, whatever follows it in the page.
-/

/-- What the body of a page changes while it is read. -/
structure BodyState where
  document : Document
  stack : List OpenElement
  formatting : List FormattingEntry

namespace Builder

/-- The reader is in a body and has come to a state. -/
structure IsAt (builder : Builder) (state : BodyState) : Prop where
  mode : builder.mode = .inBody
  reading : builder.reading = .markup
  templateModes : builder.templateModes = []
  fostering : builder.fostering = false
  skipLineFeed : builder.skipLineFeed = false
  document : builder.document = state.document
  stack : builder.stack = state.stack
  formatting : builder.formatting = state.formatting

/-- Taking what is written leads from one reader to another, whatever follows. -/
def Reads (builder : Builder) (written : List Char) (after : Builder) : Prop :=
  ∃ count ≤ written.length, ∀ fuel rest,
    builder.takeInput (fuel + count) (written ++ rest) = after.takeInput fuel rest

namespace Reads

variable {builder between after : Builder} {written more : List Char}

theorem refl : builder.Reads [] builder :=
  ⟨0, Nat.le_refl 0, fun _ _ => rfl⟩

theorem trans
    (first : builder.Reads written between)
    (second : between.Reads more after) :
    builder.Reads (written ++ more) after := by
  obtain ⟨count, small, taken⟩ := first
  obtain ⟨moreCount, moreSmall, moreTaken⟩ := second
  refine ⟨moreCount + count, ?_, ?_⟩
  · rw [List.length_append]
    omega
  · intro fuel rest
    rw [List.append_assoc, ← Nat.add_assoc, taken, moreTaken]

/-- One token is taken at a time. -/
theorem token
    {token : Token}
    (markup : builder.reading = .markup)
    (nonempty : written ≠ [])
    (read : ∀ sectionsAllowed rest,
      Lexer.next? .markup sectionsAllowed (written ++ rest) = some (token, rest)) :
    builder.Reads written (builder.takeToken token) := by
  refine ⟨1, List.length_pos_iff.mpr nonempty, ?_⟩
  intro fuel rest
  rw [takeInput, markup, read]

/-- Behind what is written only the end of the page is left. -/
theorem takeInput_eq
    (reads : builder.Reads written after)
    {fuel : Nat}
    (enough : written.length < fuel) :
    builder.takeInput fuel written = after.takeToken .endOfInput := by
  obtain ⟨count, small, taken⟩ := reads
  obtain ⟨spare, rfl⟩ : ∃ spare, fuel = spare + 1 + count :=
    ⟨fuel - 1 - count, by omega⟩
  rw [← List.append_nil written, taken, takeInput, Lexer.next?]

end Reads

/-- An item of which a mode is done with is taken once. -/
theorem take_of_done
    {builder after : Builder}
    {item : Item}
    (home : builder.takesAsForeign item = false)
    (taken : builder.takeInMode item = .done after) :
    builder.take item = after := by
  obtain ⟨fuel, enough⟩ : ∃ fuel, 8 * (builder.document.size + 8) = fuel + 1 :=
    ⟨8 * (builder.document.size + 8) - 1, by omega⟩
  rw [take, enough, settle, home, if_neg Bool.false_ne_true, taken]

namespace IsAt

variable {builder : Builder} {state : BodyState}
variable {document : Document} {current : OpenElement} {outer : List OpenElement}
variable {formatting : List FormattingEntry}

/-- Inside the page's own language nothing is foreign. -/
theorem takesAsForeign_eq
    (isAt : builder.IsAt state)
    (home : ∀ element ∈ state.stack, element.space = .html)
    (item : Item) :
    builder.takesAsForeign item = false := by
  rw [takesAsForeign, isAt.stack]
  cases shape : state.stack with
  | nil =>
      rfl
  | cons current outer =>
      have isHome := home current (by rw [shape]; exact List.mem_cons_self)
      simp [isForeignTo, isHome]

/-- What the body is done with is taken so. -/
theorem take_eq
    {after : Builder}
    {item : Item}
    (isAt : builder.IsAt state)
    (home : ∀ element ∈ state.stack, element.space = .html)
    (taken : builder.takeInBody item = .done after) :
    builder.take item = after := by
  refine take_of_done (isAt.takesAsForeign_eq home item) ?_
  rw [takeInMode, isAt.mode, taken]

theorem takeToken_startTag (isAt : builder.IsAt state) (tag : Tag) :
    builder.takeToken (.startTag tag) = builder.take (.startTag tag) := by
  cases builder
  cases isAt.reading
  cases isAt.skipLineFeed
  rfl

theorem takeToken_endTag (isAt : builder.IsAt state) (name : String) :
    builder.takeToken (.endTag name) = builder.take (.endTag name) := by
  cases builder
  cases isAt.reading
  cases isAt.skipLineFeed
  rfl

theorem takeToken_text (isAt : builder.IsAt state) (character : Char) :
    builder.takeToken (.text [character]) = builder.take (.character character) := by
  cases builder
  cases isAt.skipLineFeed
  rfl

/-! ## What the changes do to the state -/

theorem withStack
    (isAt : builder.IsAt state)
    (stack : List OpenElement) :
    { builder with stack }.IsAt { state with stack } :=
  { isAt with stack := rfl }

theorem withFormatting
    (isAt : builder.IsAt state)
    (formatting : List FormattingEntry) :
    { builder with formatting }.IsAt { state with formatting } :=
  { isAt with formatting := rfl }

theorem forbidFrames (isAt : builder.IsAt state) : builder.forbidFrames.IsAt state :=
  { isAt with }

theorem currentPlace_eq
    (isAt : builder.IsAt ⟨document, current :: outer, formatting⟩) :
    builder.currentPlace = .inside current.id := by
  rw [currentPlace, isAt.stack]
  dsimp only
  rw [placeIn, isAt.fostering]
  rfl

/-- A new element stands behind all else in the innermost one and is then the innermost. -/
theorem insert
    (isAt : builder.IsAt ⟨document, current :: outer, formatting⟩)
    (tag : Tag) :
    (builder.insert tag).IsAt
      ⟨document.add current.id (.element ⟨.html, tag.name, tag.attributes⟩),
        ⟨document.size, .html, tag.name⟩ :: current :: outer, formatting⟩ := by
  have put : (builder.insert tag).document =
      builder.document.add current.id (.element ⟨.html, tag.name, tag.attributes⟩) := by
    simp only [Builder.insert, insertOpen, insertClosed, Builder.put, isAt.currentPlace_eq]
    rfl
  have opened : (builder.insert tag).stack =
      ⟨builder.document.size, .html, tag.name⟩ :: builder.stack := rfl
  rw [isAt.document] at put opened
  rw [isAt.stack] at opened
  exact { isAt with document := put, stack := opened }

/-- Text stands behind all else in the innermost element. -/
theorem putText
    (isAt : builder.IsAt ⟨document, current :: outer, formatting⟩) :
    builder.putText.IsAt
      ⟨document.appendText current.id, current :: outer, formatting⟩ := by
  have put : builder.putText.document = document.appendText current.id := by
    simp only [Builder.putText, isAt.currentPlace_eq, isAt.document]
  exact { isAt with document := put }

/-- Formatting elements that are all open need not be reopened. -/
theorem reopenFormatting_eq
    (isAt : builder.IsAt state)
    (opened : ∀ entry ∈ state.formatting, entry.isClosed state.stack = false) :
    builder.reopenFormatting = builder := by
  have closed : builder.formatting.takeWhile (·.isClosed builder.stack) = [] := by
    rw [isAt.formatting, isAt.stack]
    cases shape : state.formatting with
    | nil =>
        rfl
    | cons entry entries =>
        rw [List.takeWhile_cons, opened entry (by rw [shape]; exact List.mem_cons_self)]
        rfl
  rw [reopenFormatting, closed]
  rfl

/-- The innermost element stays open when its end may not be left out. -/
theorem closeImplied_eq
    {names : List String}
    (isAt : builder.IsAt ⟨document, current :: outer, formatting⟩)
    (stays : current.isOneOf names = false) :
    builder.closeImplied names = builder := by
  have kept : builder.stack.dropWhile (fun element => !(!element.isOneOf names)) =
      builder.stack := by
    rw [isAt.stack, List.dropWhile_cons, stays]
    rfl
  rw [closeImplied, popTo, kept]

/-- Closing the open elements through the innermost one closes that one alone. -/
theorem popThrough_eq
    {test : OpenElement → Bool}
    (isAt : builder.IsAt ⟨document, current :: outer, formatting⟩)
    (meant : test current = true) :
    builder.popThrough test = { builder with stack := outer } := by
  rw [popThrough, isAt.stack, List.dropWhile_cons, meant]
  rfl

/-- The innermost element is in scope. -/
theorem inScope_eq
    {test : OpenElement → Bool}
    (isAt : builder.IsAt ⟨document, current :: outer, formatting⟩)
    (bounds : OpenElement → Bool)
    (meant : test current = true) :
    builder.inScope bounds test = true := by
  rw [inScope, isAt.stack, reaches, meant, Bool.true_or]

end IsAt

end Builder

end CompilePlayground.Html
