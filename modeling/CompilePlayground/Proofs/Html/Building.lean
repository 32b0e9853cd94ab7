import CompilePlayground.Proofs.Html.Forests
import CompilePlayground.Proofs.Html.Reading

namespace CompilePlayground.Html

/-!
# Building what is written

A tag or a text that is written yields one change of the document, of the open elements and of the
formatting elements. What stands between the tags of an element is built inside of it, and a page
that begins with a block is built in a body that it does not write.
-/

/-- Reading what is written leads from one state of the body to another. -/
def Yields (before : BodyState) (written : List Char) (after : BodyState) : Prop :=
  ∀ builder : Builder, builder.IsAt before →
    ∃ next, builder.Reads written next ∧ next.IsAt after

namespace Yields

variable {before between after : BodyState} {written more : List Char}

theorem refl : Yields before [] before :=
  fun builder isAt => ⟨builder, .refl, isAt⟩

theorem trans
    (first : Yields before written between)
    (second : Yields between more after) :
    Yields before (written ++ more) after := by
  intro builder isAt
  obtain ⟨next, reads, isNext⟩ := first builder isAt
  obtain ⟨last, moreReads, isLast⟩ := second next isNext
  exact ⟨last, reads.trans moreReads, isLast⟩

end Yields

section Tags

variable {document : Document} {current : OpenElement} {outer : List OpenElement}
variable {formatting : List FormattingEntry}
variable {name : String} {attributes : List Attribute}

/-- The elements that are open belong to the page's own language, and none is a paragraph. -/
def IsPlain (stack : List OpenElement) : Prop :=
  ∀ element ∈ stack, element.space = .html ∧ element.name ≠ "p"

instance (stack : List OpenElement) : Decidable (IsPlain stack) :=
  inferInstanceAs (Decidable (∀ element ∈ stack, element.space = .html ∧ element.name ≠ "p"))

namespace IsPlain

variable {stack : List OpenElement}

theorem home (plain : IsPlain stack) : ∀ element ∈ stack, element.space = .html :=
  fun element member => (plain element member).1

theorem noParagraph (plain : IsPlain stack) :
    ∀ element ∈ stack, element.isNamed "p" = false := by
  intro element member
  rw [OpenElement.isNamed, beq_false_of_ne (plain element member).2, Bool.and_false]

theorem cons
    {name : String}
    (plain : IsPlain stack)
    (id : NodeId)
    (other : name ≠ "p") :
    IsPlain (⟨id, .html, name⟩ :: stack) := by
  intro element member
  rcases List.mem_cons.mp member with rfl | member
  · exact ⟨rfl, other⟩
  · exact plain element member

end IsPlain

theorem yields_startTag
    {before after : BodyState}
    (word : isWord name = true)
    (writable : AreWritable attributes)
    (plain : IsPlain before.stack)
    (taken : ∀ builder : Builder, builder.IsAt before →
      ∃ next, builder.takeInBody (.startTag ⟨name, attributes, false⟩) = .done next ∧
        next.IsAt after) :
    Yields before (startTag name attributes) after := by
  intro builder isAt
  obtain ⟨next, done, isNext⟩ := taken builder isAt
  have read : builder.Reads (startTag name attributes)
      (builder.takeToken (.startTag ⟨name, attributes, false⟩)) :=
    .token isAt.reading (by simp [startTag]) (Lexer.next?_startTag word writable)
  rw [isAt.takeToken_startTag, isAt.take_eq plain.home done] at read
  exact ⟨next, read, isNext⟩

theorem yields_endTag
    {before after : BodyState}
    (word : isWord name = true)
    (plain : IsPlain before.stack)
    (taken : ∀ builder : Builder, builder.IsAt before →
      ∃ next, builder.takeInBody (.endTag name) = .done next ∧ next.IsAt after) :
    Yields before (endTag name) after := by
  intro builder isAt
  obtain ⟨next, done, isNext⟩ := taken builder isAt
  have read : builder.Reads (endTag name) (builder.takeToken (.endTag name)) :=
    .token isAt.reading (by simp [endTag]) (Lexer.next?_endTag word)
  rw [isAt.takeToken_endTag, isAt.take_eq plain.home done] at read
  exact ⟨next, read, isNext⟩

/-- No element with a property is in scope when none is open. -/
theorem reaches_eq_false
    {test : OpenElement → Bool}
    {stack : List OpenElement}
    (bounds : OpenElement → Bool)
    (absent : ∀ element ∈ stack, test element = false) :
    Builder.reaches bounds test stack = false := by
  induction stack with
  | nil =>
      rfl
  | cons element stack inductionHypothesis =>
      rw [Builder.reaches, absent element List.mem_cons_self, Bool.false_or,
        inductionHypothesis fun other member => absent other (List.mem_cons_of_mem _ member),
        Bool.and_false]

/-- The state in which an element has just been put into the innermost one and is open. -/
def opening
    (document : Document)
    (current : OpenElement)
    (outer : List OpenElement)
    (formatting : List FormattingEntry)
    (name : String)
    (attributes : List Attribute) :
    BodyState :=
  ⟨document.add current.id (.element ⟨.html, name, attributes⟩),
    ⟨document.size, .html, name⟩ :: current :: outer, formatting⟩

/-- Outside of paragraphs a block is put in as it is. -/
theorem insertBlock_isAt
    {builder : Builder}
    (isAt : builder.IsAt ⟨document, current :: outer, formatting⟩)
    (plain : IsPlain (current :: outer)) :
    (builder.insertBlock ⟨name, attributes, false⟩).IsAt
      (opening document current outer formatting name attributes) := by
  have outside : builder.closeOpenParagraph = builder := by
    rw [Builder.closeOpenParagraph, Builder.inScope, isAt.stack,
      reaches_eq_false _ plain.noParagraph, if_neg Bool.false_ne_true]
  rw [Builder.insertBlock, outside]
  exact isAt.insert _

theorem yields_block
    (word : isWord name = true)
    (kind : Builder.startKind name = .block)
    (writable : AreWritable attributes)
    (plain : IsPlain (current :: outer)) :
    Yields ⟨document, current :: outer, formatting⟩ (startTag name attributes)
      (opening document current outer formatting name attributes) := by
  refine yields_startTag word writable plain fun builder isAt => ?_
  refine ⟨builder.insertBlock ⟨name, attributes, false⟩, ?_, insertBlock_isAt isAt plain⟩
  rw [Builder.takeInBody, Builder.takeStartInBody, kind]

/-- An item is put in as it is when no item of the same list is open. -/
theorem yields_item
    (plain : IsPlain (current :: outer))
    (noItem : Builder.itemToClose? ["li"] (current :: outer) = none) :
    Yields ⟨document, current :: outer, formatting⟩ (startTag "li" [])
      (opening document current outer formatting "li" []) := by
  refine yields_startTag (by decide) areWritable_nil plain fun builder isAt => ?_
  refine ⟨builder.forbidFrames.insertBlock ⟨"li", [], false⟩, ?_,
    insertBlock_isAt isAt.forbidFrames plain⟩
  have noneOpen : Builder.itemToClose? ["li"] builder.forbidFrames.stack = none := by
    rw [isAt.forbidFrames.stack]
    exact noItem
  have kind : Builder.startKind "li" = .item := by
    decide
  rw [Builder.takeInBody, Builder.takeStartInBody, kind]
  dsimp only
  rw [Builder.insertItem, noneOpen]

/-- An anchor is put in as it is when no formatting element is remembered, and is remembered
itself. -/
theorem yields_anchor
    (writable : AreWritable attributes)
    (plain : IsPlain (current :: outer)) :
    Yields ⟨document, current :: outer, []⟩ (startTag "a" attributes)
      (opening document current outer [.element document.size ⟨"a", attributes, false⟩] "a"
        attributes) := by
  refine yields_startTag (by decide) writable plain fun builder isAt => ?_
  refine ⟨builder.openFormatting ⟨"a", attributes, false⟩, ?_, ?_⟩
  · have kind : Builder.startKind "a" = .anchor := by
      decide
    have forgotten : builder.formatting = [] := isAt.formatting
    have reopened : builder.reopenFormatting = builder :=
      isAt.reopenFormatting_eq fun entry member => absurd member List.not_mem_nil
    rw [Builder.takeInBody, Builder.takeStartInBody, kind]
    dsimp only
    rw [Builder.insertAnchor, Builder.recentFormatting, forgotten]
    dsimp only [List.takeWhile_nil, List.find?_nil]
    rw [reopened, Builder.insertFormatting, Builder.recentFormatting, forgotten]
    rfl
  · have inserted := isAt.insert ⟨"a", attributes, false⟩
    have remembered :
        (builder.openFormatting ⟨"a", attributes, false⟩).formatting =
          .element builder.document.size ⟨"a", attributes, false⟩ :: builder.formatting := rfl
    rw [isAt.document, isAt.formatting] at remembered
    exact { inserted with formatting := remembered }

/-! ## End tags -/

theorem isNamed_self (id : NodeId) (name : String) :
    OpenElement.isNamed name ⟨id, .html, name⟩ = true := by
  simp [OpenElement.isNamed]

theorem isOneOf_home (id : NodeId) (name : String) (names : List String) :
    OpenElement.isOneOf names ⟨id, .html, name⟩ = names.contains name := by
  simp [OpenElement.isOneOf]

/-- The end tag of a block closes the block when it is the innermost element. -/
theorem yields_endBlock
    {id : NodeId}
    (word : isWord name = true)
    (closes : ∀ builder : Builder, builder.takeEndInBody name = .done (builder.closeBlock name))
    (stays : Builder.impliedEnds.contains name = false)
    (other : name ≠ "p")
    (plain : IsPlain outer) :
    Yields ⟨document, ⟨id, .html, name⟩ :: outer, formatting⟩ (endTag name)
      ⟨document, outer, formatting⟩ := by
  refine yields_endTag word (plain.cons id other) fun builder isAt => ?_
  refine ⟨{ builder with stack := outer }, ?_, isAt.withStack outer⟩
  rw [Builder.takeInBody, closes, Builder.closeBlock,
    isAt.inScope_eq Builder.boundsScope (isNamed_self id name), if_pos rfl,
    isAt.closeImplied_eq (by rw [isOneOf_home, stays]), isAt.popThrough_eq (isNamed_self id name)]

/-- The end tag of an item closes the item when it is the innermost element. -/
theorem yields_endItem
    {id : NodeId}
    (plain : IsPlain outer) :
    Yields ⟨document, ⟨id, .html, "li"⟩ :: outer, formatting⟩ (endTag "li")
      ⟨document, outer, formatting⟩ := by
  refine yields_endTag (by decide) (plain.cons id (by decide)) fun builder isAt => ?_
  refine ⟨{ builder with stack := outer }, ?_, isAt.withStack outer⟩
  have closes : builder.takeEndInBody "li" =
      .done (if builder.inScope Builder.boundsItemScope (·.isNamed "li") then
        builder.closeWithImplied "li" else builder) := rfl
  rw [Builder.takeInBody, closes, isAt.inScope_eq Builder.boundsItemScope (isNamed_self id "li"),
    if_pos rfl, Builder.closeWithImplied, Builder.closeImpliedExcept,
    isAt.closeImplied_eq (by rw [isOneOf_home]; decide), isAt.popThrough_eq (isNamed_self id "li")]

/-- The end tag of an anchor closes and forgets the anchor when it is the innermost element and the
one that is remembered. -/
theorem yields_endAnchor
    {id : NodeId}
    (plain : IsPlain outer) :
    Yields
      ⟨document, ⟨id, .html, "a"⟩ :: outer, [.element id ⟨"a", attributes, false⟩]⟩
      (endTag "a")
      ⟨document, outer, []⟩ := by
  refine yields_endTag (by decide) (plain.cons id (by decide)) fun builder isAt => ?_
  refine ⟨{ builder with stack := outer, formatting := [] }, ?_,
    (isAt.withStack outer).withFormatting []⟩
  have closes : builder.takeEndInBody "a" = .done (builder.closeFormatting "a") := rfl
  have remembered : builder.formatting = [.element id ⟨"a", attributes, false⟩] :=
    isAt.formatting
  have innermost : builder.stack = ⟨id, .html, "a"⟩ :: outer := isAt.stack
  have inScope : builder.inScope Builder.boundsScope (·.id == id) = true :=
    isAt.inScope_eq _ (beq_self_eq_true id)
  rw [Builder.takeInBody, closes, Builder.closeFormatting, innermost]
  simp [remembered, Builder.closeFormattingWithin, Builder.recentFormatting, innermost,
    FormattingEntry.isMarker, FormattingEntry.isNamed, FormattingEntry.holds, isNamed_self, inScope,
    Builder.forgetFormatting]

/-! ## Text -/

/-- A character is put behind all else in the innermost element. -/
theorem yields_character
    (document : Document)
    {character : Char}
    (real : character ≠ '\x00')
    (plain : IsPlain (current :: outer))
    (allOpen : ∀ entry ∈ formatting, entry.isClosed (current :: outer) = false) :
    Yields ⟨document, current :: outer, formatting⟩ (escapeChar character)
      ⟨document.appendText current.id, current :: outer, formatting⟩ := by
  intro builder isAt
  have read : builder.Reads (escapeChar character) (builder.takeToken (.text [character])) := by
    refine .token isAt.reading ?_ fun sectionsAllowed rest =>
      Lexer.next?_escapeChar sectionsAllowed character rest
    unfold escapeChar
    split <;> simp
  have put := isAt.putText
  have taken : builder.takeInBody (.character character) =
      .done (builder.takeCharacterInBody character) := rfl
  rw [isAt.takeToken_text, isAt.take_eq plain.home taken] at read
  refine ⟨_, read, ?_⟩
  rw [Builder.takeCharacterInBody, if_neg (by simpa using real), isAt.reopenFormatting_eq allOpen]
  dsimp only
  split
  · exact put
  · exact put.forbidFrames

/-- Text that follows text adds no node. -/
theorem yields_moreText
    {text : List Char}
    (known : document.appendText current.id = document)
    (real : '\x00' ∉ text)
    (plain : IsPlain (current :: outer))
    (allOpen : ∀ entry ∈ formatting, entry.isClosed (current :: outer) = false) :
    Yields ⟨document, current :: outer, formatting⟩ (escape text)
      ⟨document, current :: outer, formatting⟩ := by
  induction text with
  | nil =>
      exact .refl
  | cons character text inductionHypothesis =>
      rw [List.mem_cons, not_or] at real
      have first := yields_character document (Ne.symm real.1) plain allOpen
      rw [known] at first
      exact first.trans (inductionHypothesis real.2)

/-- The node that a text makes, if there is any text. -/
def textForest : List Char → Forest
  | [] => .empty
  | _ :: _ => .node .text .empty .empty

theorem appendText_of_childless
    (inOrder : document.InOrder)
    {parent : NodeId}
    (inside : parent < document.size)
    (childless : document.childrenOf parent = []) :
    document.appendText parent = document.add parent .text := by
  have empty : document.ends? parent = none := by
    rw [inOrder.ends parent inside, childless]
    rfl
  rw [Document.appendText, empty, Option.any_none, if_neg Bool.false_ne_true]
  rfl

theorem appendText_add_text
    (inOrder : document.InOrder)
    {parent : NodeId}
    (inside : parent < document.size) :
    (document.add parent .text).appendText parent = document.add parent .text := by
  have last : (document.add parent .text).ends? parent =
      outermost (document.childrenOf parent ++ [document.size]) := by
    rw [Document.ends?_add inOrder inside _ inside, if_pos rfl]
  have isText : (document.add parent .text).isText document.size = true := by
    rw [Document.isText, Document.getElem?_add inOrder inside, if_pos rfl]
    rfl
  rw [Document.appendText, last, outermost_append_singleton, Option.any_some, isText, if_pos rfl]

/-- A text in an element that holds nothing makes at most one node. -/
theorem yields_text
    {text : List Char}
    (inOrder : document.InOrder)
    (inside : current.id < document.size)
    (childless : document.childrenOf current.id = [])
    (real : '\x00' ∉ text)
    (plain : IsPlain (current :: outer))
    (allOpen : ∀ entry ∈ formatting, entry.isClosed (current :: outer) = false) :
    Yields ⟨document, current :: outer, formatting⟩ (escape text)
      ⟨document.grow current.id (textForest text), current :: outer, formatting⟩ := by
  cases text with
  | nil =>
      exact .refl
  | cons character text =>
      rw [List.mem_cons, not_or] at real
      have first := yields_character document (Ne.symm real.1) plain allOpen
      rw [appendText_of_childless inOrder inside childless] at first
      exact first.trans (yields_moreText (appendText_add_text inOrder inside) real.2 plain allOpen)

/-! ## Elements -/

/-- An element that is put into the innermost one, filled and closed stands there with what it was
filled with. -/
theorem Yields.element
    {inside : Forest}
    {written closing : List Char}
    {between : List FormattingEntry}
    (starts : Yields ⟨document, current :: outer, formatting⟩ (startTag name attributes)
      (opening document current outer between name attributes))
    (fills : Yields (opening document current outer between name attributes) written
      ⟨(document.add current.id (.element ⟨.html, name, attributes⟩)).grow document.size inside,
        ⟨document.size, .html, name⟩ :: current :: outer, between⟩)
    (ends : ∀ document' : Document,
      Yields ⟨document', ⟨document.size, .html, name⟩ :: current :: outer, between⟩ closing
        ⟨document', current :: outer, formatting⟩) :
    Yields ⟨document, current :: outer, formatting⟩
      (startTag name attributes ++ (written ++ closing))
      ⟨document.grow current.id (.node (.element ⟨.html, name, attributes⟩) inside .empty),
        current :: outer, formatting⟩ :=
  starts.trans (fills.trans (ends _))

/-- What is written value by value is put into the innermost element side by side. -/
theorem Yields.row
    {α : Type}
    {element : α → Element}
    {inside : α → Forest}
    {written : α → List Char}
    {values : List α}
    (each : ∀ value ∈ values, ∀ document : Document, document.InOrder →
      current.id < document.size →
        Yields ⟨document, current :: outer, formatting⟩ (written value)
          ⟨document.grow current.id (.node (.element (element value)) (inside value) .empty),
            current :: outer, formatting⟩)
    (inOrder : document.InOrder)
    (known : current.id < document.size) :
    Yields ⟨document, current :: outer, formatting⟩ (values.flatMap written)
      ⟨document.grow current.id (.row element inside values), current :: outer, formatting⟩ := by
  induction values generalizing document with
  | nil =>
      exact .refl
  | cons value values inductionHypothesis =>
      have first := each value List.mem_cons_self document inOrder known
      have grown := (Document.grown_grow inOrder known
        (.node (.element (element value)) (inside value) .empty)).1
      rw [Forest.row, Document.grow_node, List.flatMap_cons]
      exact first.trans (inductionHypothesis
        (fun other member => each other (List.mem_cons_of_mem value member)) grown.inOrder
        (grown.lt_size known))

end Tags

/-! ## The page around the body -/

namespace Document

/-- A document of a root with an empty head and an empty body. -/
def framed : Document :=
  ((empty.add 0 (.element ⟨.html, "html", []⟩)).add 1 (.element ⟨.html, "head", []⟩)).add 1
    (.element ⟨.html, "body", []⟩)

theorem framed_inOrder : framed.InOrder :=
  ((InOrder.empty.add (by decide) _).add (by decide) _).add (by decide) _

theorem framed_size : framed.size = 4 := by
  decide

end Document

/-- What is open in a body that has no open block. -/
def bodyStack : List OpenElement :=
  [⟨3, .html, "body"⟩, ⟨1, .html, "html"⟩]

namespace Builder

/-- The state in the body of a page that has written nothing yet. -/
def framed : Builder :=
  { start with
    document := .framed
    mode := .inBody
    stack := bodyStack
    head? := some 2
    oldRules := true }

theorem framed_isAt : framed.IsAt ⟨.framed, bodyStack, []⟩ :=
  ⟨rfl, rfl, rfl, rfl, rfl, rfl, rfl, rfl⟩

/-- A page that begins with a block is read as if its root, its head and its body were written. -/
theorem takeInput_start
    {attributes : List Attribute}
    (writable : AreWritable attributes)
    (fuel : Nat)
    (rest : List Char) :
    start.takeInput (fuel + 1) (startTag "div" attributes ++ rest) =
      framed.takeInput (fuel + 1) (startTag "div" attributes ++ rest) := by
  -- The tag is taken again in each mode before the body, and each implies one element.
  have same : start.takeToken (.startTag ⟨"div", attributes, false⟩) =
      framed.takeToken (.startTag ⟨"div", attributes, false⟩) := rfl
  have read : ∀ sectionsAllowed,
      Lexer.next? .markup sectionsAllowed (startTag "div" attributes ++ rest) =
        some (.startTag ⟨"div", attributes, false⟩, rest) :=
    fun sectionsAllowed => Lexer.next?_startTag (by decide) writable sectionsAllowed rest
  have markup : start.reading = .markup := rfl
  have framedMarkup : framed.reading = .markup := rfl
  rw [takeInput, takeInput, markup, framedMarkup, read, read]
  dsimp only
  rw [same]

/-- The end of the page changes nothing in a body. -/
theorem IsAt.takeToken_endOfInput
    {builder : Builder}
    {state : BodyState}
    (isAt : builder.IsAt state)
    (plain : IsPlain state.stack) :
    builder.takeToken .endOfInput = builder := by
  have same : builder.takeToken .endOfInput = builder.take .endOfInput := by
    cases builder
    cases isAt.skipLineFeed
    rfl
  rw [same]
  refine isAt.take_eq plain.home ?_
  rw [takeInBody, isAt.templateModes]
  rfl

end Builder

/-- Without a carriage return the ends of lines stay as they are. -/
theorem Lexer.unifyLines_eq
    {characters : List Char}
    (noReturn : '\r' ∉ characters)
    (read : List Char) :
    Lexer.unifyLines read characters = read.reverse ++ characters := by
  induction characters generalizing read with
  | nil =>
      rw [Lexer.unifyLines, List.append_nil]
  | cons character characters inductionHypothesis =>
      rw [List.mem_cons, not_or] at noReturn
      rw [Lexer.unifyLines, inductionHypothesis noReturn.2, List.reverse_cons, List.append_assoc]
      · rfl
      · intro _ same
        exact absurd same.symm noReturn.1
      · intro same
        exact absurd same.symm noReturn.1

/-- A page that begins with a block gives the document that is built from what is written. -/
theorem Page.read_eq
    {attributes : List Attribute}
    {rest : List Char}
    {document : Document}
    (writable : AreWritable attributes)
    (noReturn : '\r' ∉ startTag "div" attributes ++ rest)
    (yields : Yields ⟨.framed, bodyStack, []⟩ (startTag "div" attributes ++ rest)
      ⟨document, bodyStack, []⟩) :
    Page.read (String.ofList (startTag "div" attributes ++ rest)) = document := by
  obtain ⟨after, reads, isAt⟩ := yields .framed Builder.framed_isAt
  have plain : IsPlain bodyStack := by
    decide
  have prepared : Lexer.prepare (startTag "div" attributes ++ rest) =
      startTag "div" attributes ++ rest :=
    Lexer.unifyLines_eq noReturn []
  rw [Page.read, String.toList_ofList, prepared, Builder.takeInput_start writable,
    reads.takeInput_eq (Nat.lt_succ_self _), isAt.takeToken_endOfInput plain, isAt.document]

end CompilePlayground.Html
