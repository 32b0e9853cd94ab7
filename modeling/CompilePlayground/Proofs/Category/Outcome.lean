import CompilePlayground.Proofs.Category.Choosing
import CompilePlayground.Proofs.Html.Leaving

namespace CompilePlayground.Category

open Html

/-!
# What is listed of a document

Of the sections that stand in something the one that was made first counts. Without one the root is
missing, without an item in it that has an anchor there are no links, and otherwise its anchors are
chosen item by item. Nothing but the tree of this section matters.

Elements are made in document order except where the parser moves them, so that the section that
counts is the first one in this order as long as nothing was moved.
-/

/-- Whether a section that stands in something is at a node. -/
def sectionAt (document : Document) (node : NodeId) : Bool :=
  document.nodes[node]?.any (Node.isPlaced isSection)

/-- The section that was made first is at a node. -/
def FirstSection (document : Document) (top : NodeId) : Prop :=
  sectionAt document top = true ∧ ∀ earlier < top, sectionAt document earlier = false

/-- The nodes of a document in document order. -/
def inOrder (document : Document) : List NodeId :=
  (document.walk Document.root).filterMap fun
    | .enter node => some node
    | .leave _ => none

/-- An item below a section has an anchor below it. -/
def HasLink (area : Tree) : Prop :=
  ∃ item anchor, ItemAt area item ∧ AnchorUnder area item anchor

/-- What is answered for a document: which failure there is and when, what is chosen otherwise, and
that the section is the first in document order where nothing was moved. Another document with the
same tree at its section has the same answer, and so has one with the same nodes on the way through
the section, if this way comes to its end. -/
structure Answers
    (document : Document)
    (answer : Except CategoryFailure (List LinkItem)) :
    Prop where
  missing : answer = .error .missingRoot ↔ ∀ node, sectionAt document node = false
  unlinked : answer = .error .noLinks ↔
    ∃ top, FirstSection document top ∧ ¬HasLink (document.tree top)
  found : ∀ found, answer = .ok found →
    ∃ top chosen, FirstSection document top ∧ Chooses (document.tree top) chosen found
  first : ∀ top, FirstSection document top → top ∈ inOrder document →
    (inOrder document).Pairwise (· < ·) →
      (inOrder document).find? (sectionAt document) = some top
  inside : ∀ other top place, FirstSection document top → FirstSection other place →
    other.tree place = document.tree top → ofDocument other = answer
  outside : ∀ other top, FirstSection document top → FirstSection other top →
    .leave top ∈ document.walk top →
      (∀ step ∈ document.walk top, other.nodes[step.node]? = document.nodes[step.node]?) →
        ofDocument other = answer

variable {document : Document} {top : NodeId}

/-- The section that counts is the one that was made first. -/
theorem firstMade?_eq_some_iff :
    document.firstMade? isSection = some top ↔ FirstSection document top := by
  unfold Document.firstMade? FirstSection
  rw [Array.findIdx?_eq_some_iff_getElem]
  constructor
  · rintro ⟨known, isThere, before⟩
    refine ⟨?_, fun earlier smaller => ?_⟩
    · rw [sectionAt, Array.getElem?_eq_getElem known]
      exact isThere
    · rw [sectionAt, Array.getElem?_eq_getElem (smaller.trans known)]
      exact Bool.eq_false_iff.2 (before earlier smaller)
  · rintro ⟨isThere, before⟩
    obtain ⟨node, listed, holds⟩ := (Option.any_eq_true ..).1 isThere
    obtain ⟨known, rfl⟩ := Array.getElem?_eq_some_iff.1 listed
    refine ⟨known, holds, fun earlier smaller => ?_⟩
    have nothing := before earlier smaller
    rw [sectionAt, Array.getElem?_eq_getElem (smaller.trans known)] at nothing
    exact Bool.eq_false_iff.1 nothing

/-- No section counts when there is none. -/
theorem firstMade?_eq_none_iff :
    document.firstMade? isSection = none ↔ ∀ node, sectionAt document node = false := by
  unfold Document.firstMade?
  rw [Array.findIdx?_eq_none_iff]
  constructor
  · intro nothing node
    unfold sectionAt
    cases listed : document.nodes[node]? with
    | none =>
        rfl
    | some found =>
        exact nothing found (Array.mem_of_getElem? listed)
  · intro nothing found isThere
    obtain ⟨node, listed⟩ := Array.getElem?_of_mem isThere
    have none := nothing node
    rwa [sectionAt, listed] at none

/-- A section is missing, or one of them was made first. -/
theorem missing_or_exists_firstSection (document : Document) :
    (∀ node, sectionAt document node = false) ∨ ∃ top, FirstSection document top := by
  cases found : document.firstMade? isSection with
  | none =>
      exact .inl (firstMade?_eq_none_iff.1 found)
  | some top =>
      exact .inr ⟨top, firstMade?_eq_some_iff.1 found⟩

/-- Without a section the root is missing. -/
theorem ofDocument_of_missing
    (missing : ∀ node, sectionAt document node = false) :
    ofDocument document = .error .missingRoot := by
  unfold ofDocument section?
  rw [firstMade?_eq_none_iff.2 missing]
  rfl

/-- The links in a section are what is answered, if there are any. -/
def answer (area : Tree) : Except CategoryFailure (List LinkItem) :=
  match links area with
  | [] => .error .noLinks
  | found => .ok found

/-- Where there is a section its tree tells the answer. -/
theorem FirstSection.ofDocument_eq (first : FirstSection document top) :
    ofDocument document = answer (document.tree top) := by
  unfold ofDocument section?
  rw [firstMade?_eq_some_iff.2 first]
  rfl

/-- Something is found in a section exactly when an item of it has an anchor. -/
theorem Chooses.eq_nil_iff
    {area : Tree}
    {chosen : List Spot}
    {found : List LinkItem}
    (chooses : Chooses area chosen found) :
    found = [] ↔ ¬HasLink area := by
  obtain ⟨items, _, complete, alike⟩ := chooses.each
  have sameLength : found.length = items.length :=
    chooses.links.length_eq.symm.trans alike.length_eq.symm
  rw [← List.length_eq_zero_iff, sameLength, List.length_eq_zero_iff,
    List.eq_nil_iff_forall_not_mem]
  constructor
  · rintro nothing ⟨item, anchor, isItem, under⟩
    exact nothing item ((complete item).2 ⟨isItem, anchor, under⟩)
  · rintro nothing item isThere
    obtain ⟨isItem, anchor, under⟩ := (complete item).1 isThere
    exact nothing ⟨item, anchor, isItem, under⟩

/-- There are no links exactly when no item of the section has an anchor. -/
theorem answer_eq_noLinks_iff (area : Tree) :
    answer area = .error .noLinks ↔ ¬HasLink area := by
  rw [← (chooses_links area).eq_nil_iff, answer]
  cases links area with
  | nil =>
      simp only
  | cons link more =>
      simp only [reduceCtorEq]

/-- What is answered otherwise are all links. -/
theorem links_eq_of_answer
    {area : Tree}
    {found : List LinkItem}
    (answered : answer area = .ok found) :
    links area = found := by
  unfold answer at answered
  split at answered
  next => cases answered
  next => exact Except.ok.inj answered

/-- A section is not missing when there is one. -/
theorem answer_ne_missingRoot (area : Tree) : answer area ≠ .error .missingRoot := by
  unfold answer
  split
  next => exact fun same => nomatch same
  next => exact fun same => nomatch same

/-- Nodes in the order in which they were made list the section that was made first before all
others. -/
theorem FirstSection.find?_eq
    (first : FirstSection document top)
    {nodes : List NodeId}
    (isThere : top ∈ nodes)
    (sorted : nodes.Pairwise (· < ·)) :
    nodes.find? (sectionAt document) = some top := by
  obtain ⟨before, after, rfl⟩ := List.append_of_mem isThere
  refine List.find?_eq_some_iff_append.2 ⟨first.1, before, after, rfl, fun node isBefore => ?_⟩
  have smaller := (List.pairwise_append.1 sorted).2.2 node isBefore top List.mem_cons_self
  rw [first.2 node smaller]
  rfl

/-- A document is answered for as it should be. -/
theorem answers_ofDocument (document : Document) : Answers document (ofDocument document) where
  missing := by
    constructor
    · intro failed
      rcases missing_or_exists_firstSection document with missing | ⟨top, first⟩
      · exact missing
      · rw [first.ofDocument_eq] at failed
        exact absurd failed (answer_ne_missingRoot _)
    · exact ofDocument_of_missing
  unlinked := by
    constructor
    · intro failed
      rcases missing_or_exists_firstSection document with missing | ⟨top, first⟩
      · cases (ofDocument_of_missing missing).symm.trans failed
      · rw [first.ofDocument_eq, answer_eq_noLinks_iff] at failed
        exact ⟨top, first, failed⟩
    · rintro ⟨top, first, nothing⟩
      rw [first.ofDocument_eq, answer_eq_noLinks_iff]
      exact nothing
  found found answered := by
    rcases missing_or_exists_firstSection document with missing | ⟨top, first⟩
    · cases (ofDocument_of_missing missing).symm.trans answered
    · rw [first.ofDocument_eq] at answered
      have all := chooses_links (document.tree top)
      rw [links_eq_of_answer answered] at all
      exact ⟨top, _, first, all⟩
  first _ first isThere sorted := first.find?_eq isThere sorted
  inside other top place first firstThere same := by
    rw [first.ofDocument_eq, firstThere.ofDocument_eq, same]
  outside other top first firstThere comesOut same := by
    have known : document.nodes[top]?.isSome = true := Option.isSome_of_any first.1
    rw [first.ofDocument_eq, firstThere.ofDocument_eq,
      Document.tree_congr known comesOut same]

/-- Every document and every page is answered for as it should be. -/
theorem answers_of_page :
    (∀ document, Answers document (ofDocument document)) ∧
      ∀ page, Answers (Page.read page) (read page) :=
  ⟨answers_ofDocument, fun page => answers_ofDocument (Page.read page)⟩

namespace Sample

/-- A table with one section in a cell and another one between the rows, which is moved to the place
before the table. -/
def movedPage : String :=
  "<table><tr><td><div id=\"mw-pages\"><li><a title=\"A\"></a></li></div></td></tr>" ++
    "<div id=\"mw-pages\"><li><a title=\"B\"></a></li></div></table>"

end Sample

/-- The first section in document order is not the one that is read when a later one was moved to the
place before it. -/
theorem not_chooses_of_movedPage :
    (inOrder (Page.read Sample.movedPage)).find? (sectionAt (Page.read Sample.movedPage)) =
        some 11 ∧
      read Sample.movedPage = .ok [⟨"A", none⟩] ∧
      ¬∃ chosen, Chooses ((Page.read Sample.movedPage).tree 11) chosen [⟨"A", none⟩] := by
  have told : (inOrder (Page.read Sample.movedPage)).find?
        (sectionAt (Page.read Sample.movedPage)) = some 11 ∧
      (read Sample.movedPage).toOption = some [⟨"A", none⟩] ∧
      links ((Page.read Sample.movedPage).tree 11) = [⟨"B", none⟩] := by
    decide +kernel
  obtain ⟨comesFirst, answered, there⟩ := told
  refine ⟨comesFirst, ?_, ?_⟩
  · cases result : read Sample.movedPage with
    | error failure =>
        rw [result] at answered
        cases answered
    | ok found =>
        rw [result] at answered
        exact congrArg Except.ok (Option.some.inj answered)
  · rintro ⟨chosen, chooses⟩
    have same := (chooses.eq (chooses_links _)).trans there
    exact absurd same (by decide)

end CompilePlayground.Category
