import CompilePlayground.Category
import CompilePlayground.Proofs.Html.Spots
import Mathlib.Data.Set.Card

namespace CompilePlayground.Category

open Html

/-!
# Which anchors are chosen in a section

Each item below the section that has an anchor below it contributes its first one, and nothing else
does. Items may stand in one another. Then the first anchor of the outer one does not come after that
of the inner one, so that the anchors come in document order, and an anchor comes once for each item
of which it is the first.
-/

/-- An item stands at a spot below a section. -/
def ItemAt (area : Tree) (spot : Spot) : Prop :=
  spot ≠ [] ∧ ∃ item, area.at? spot = some item ∧ isItem item.element = true

/-- An anchor stands at a spot below another one. -/
def AnchorUnder (area : Tree) (item spot : Spot) : Prop :=
  (∃ rest, rest ≠ [] ∧ spot = item ++ rest) ∧
    ∃ anchor, area.at? spot = some anchor ∧ isAnchor anchor.element = true

/-- An anchor stands at a spot below another one, and none before it. -/
def Earliest (area : Tree) (item spot : Spot) : Prop :=
  AnchorUnder area item spot ∧ ∀ other, AnchorUnder area item other → ¬other < spot

/-- A link is that of the anchor at a spot. -/
def LinkAt (area : Tree) (spot : Spot) (item : LinkItem) : Prop :=
  ∃ anchor, area.at? spot = some anchor ∧ isAnchor anchor.element = true ∧
    item = link anchor.element

/-- What is found in a section: the links of anchors in document order, one for each item with an
anchor below it, and that is the earliest; an anchor comes as often as it is the earliest of an
item, these times one after the other, and no anchor comes twice when no item stands in another. -/
structure Chooses (area : Tree) (chosen : List Spot) (found : List LinkItem) : Prop where
  links : List.Forall₂ (LinkAt area) chosen found
  ordered : chosen.Pairwise (· ≤ ·)
  each : ∃ items : List Spot, items.Pairwise (· < ·) ∧
    (∀ spot, spot ∈ items ↔ ItemAt area spot ∧ ∃ anchor, AnchorUnder area spot anchor) ∧
      List.Forall₂ (Earliest area) items chosen
  count : ∀ anchor, chosen.count anchor =
    {item | ItemAt area item ∧ Earliest area item anchor}.ncard
  adjacent : ∀ anchor earlier between later,
    chosen = earlier ++ anchor :: (between ++ anchor :: later) → ∀ other ∈ between, other = anchor
  strict : (∀ outer inner, ItemAt area outer → ItemAt area inner → outer <+: inner →
    outer = inner) → chosen.Pairwise (· < ·)

section Order

variable {area : Tree} {item other spot place : Spot}

/-- There is one earliest anchor. -/
theorem Earliest.eq
    (earliest : Earliest area item spot)
    (again : Earliest area item place) :
    spot = place :=
  le_antisymm (not_lt.1 (earliest.2 place again.1)) (not_lt.1 (again.2 spot earliest.1))

/-- An anchor below an item is below those around it as well. -/
theorem AnchorUnder.widen
    (under : AnchorUnder area other spot)
    (leads : item <+: other) :
    AnchorUnder area item spot := by
  obtain ⟨⟨rest, named, rfl⟩, anchor⟩ := under
  obtain ⟨between, rfl⟩ := leads
  exact ⟨⟨between ++ rest, by simp [named], List.append_assoc _ _ _⟩, anchor⟩

/-- Of two items that are apart the first one has the first anchor. -/
theorem Earliest.lt
    (first : Earliest area item spot)
    (second : Earliest area other place)
    (before : item < other)
    (apart : ¬item <+: other) :
    spot < place := by
  obtain ⟨⟨⟨rest, _, rfl⟩, _⟩, _⟩ := first
  obtain ⟨⟨⟨more, _, rfl⟩, _⟩, _⟩ := second
  exact Spot.append_lt_append before apart rest more

/-- The first anchor of an item does not come after that of a later one. -/
theorem Earliest.le
    (first : Earliest area item spot)
    (second : Earliest area other place)
    (before : item < other) :
    spot ≤ place := by
  by_cases leads : item <+: other
  · exact not_lt.1 (first.2 place (second.1.widen leads))
  · exact (first.lt second before leads).le

end Order

section Lists

variable {α β : Type}

/-- Each value of one list goes with one of the other. -/
private theorem exists_of_forall₂
    {goes : α → β → Prop}
    {first : List α}
    {second : List β}
    (alike : List.Forall₂ goes first second)
    {other : β}
    (isThere : other ∈ second) :
    ∃ value ∈ first, goes value other := by
  induction alike with
  | nil =>
      cases isThere
  | cons goes alike inductionHypothesis =>
      rcases List.mem_cons.1 isThere with rfl | later
      · exact ⟨_, List.mem_cons_self, goes⟩
      · obtain ⟨value, member, goes⟩ := inductionHypothesis later
        exact ⟨value, List.mem_cons_of_mem _ member, goes⟩

/-- What holds of any two of some values holds of any two that go with them. -/
private theorem pairwise_of_forall₂
    {before : α → α → Prop}
    {after : β → β → Prop}
    {goes : α → β → Prop}
    {first : List α}
    {second : List β}
    (alike : List.Forall₂ goes first second)
    (holds : first.Pairwise before)
    (moves : ∀ one ∈ first, ∀ two ∈ first, before one two → ∀ other, goes one other →
      ∀ another, goes two another → after other another) :
    second.Pairwise after := by
  induction alike with
  | nil =>
      exact .nil
  | cons goes alike inductionHypothesis =>
      rw [List.pairwise_cons] at holds ⊢
      refine ⟨fun another isThere => ?_, inductionHypothesis holds.2 ?_⟩
      · obtain ⟨two, member, follows⟩ := exists_of_forall₂ alike isThere
        exact moves _ List.mem_cons_self two (List.mem_cons_of_mem _ member)
          (holds.1 two member) _ goes another follows
      · exact fun one isOne two isTwo =>
          moves one (List.mem_cons_of_mem _ isOne) two (List.mem_cons_of_mem _ isTwo)

/-- Where each value goes with one other, lists that go with the same one are the same. -/
private theorem eq_of_forall₂
    {goes : α → β → Prop}
    {first : List α}
    {second third : List β}
    (unique : ∀ value other another, goes value other → goes value another → other = another)
    (alike : List.Forall₂ goes first second)
    (again : List.Forall₂ goes first third) :
    second = third := by
  induction alike generalizing third with
  | nil =>
      cases again
      rfl
  | cons goes alike inductionHypothesis =>
      cases again with
      | cons goesAgain againAlike =>
          rw [unique _ _ _ goes goesAgain, inductionHypothesis againAlike]

/-- As often as a value comes in one list, some value that goes with it comes in the other. -/
private theorem count_of_forall₂
    [BEq β]
    [LawfulBEq β]
    {goes : α → β → Prop}
    [∀ value other, Decidable (goes value other)]
    {first : List α}
    {second : List β}
    (unique : ∀ value other another, goes value other → goes value another → other = another)
    (alike : List.Forall₂ goes first second)
    (other : β) :
    second.count other = (first.filter fun value => goes value other).length := by
  induction alike with
  | nil =>
      rfl
  | @cons value made first second goes alike inductionHypothesis =>
      rw [List.count_cons, inductionHypothesis, List.filter_cons]
      by_cases same : made = other
      · subst same
        simp [goes]
      · have apart : ¬_ := fun also => same (unique value made other goes also)
        simp [same, apart]

/-- The values of which something is made go with what is made of them. -/
private theorem forall₂_filterMap
    {goes : α → β → Prop}
    {make : α → Option β}
    {values : List α}
    (each : ∀ value ∈ values, ∀ made, make value = some made → goes value made) :
    List.Forall₂ goes (values.filter fun value => (make value).isSome) (values.filterMap make) := by
  induction values with
  | nil =>
      exact .nil
  | cons value values inductionHypothesis =>
      have later := inductionHypothesis fun other isThere =>
        each other (List.mem_cons_of_mem _ isThere)
      cases made : make value with
      | none =>
          simpa [made] using later
      | some result =>
          simpa [made] using ⟨each value List.mem_cons_self result made, later⟩

/-- Between two equal values of a list in order stand only equal ones. -/
private theorem eq_of_between
    [PartialOrder α]
    {value : α}
    {earlier between later : List α}
    (ordered : (earlier ++ value :: (between ++ value :: later)).Pairwise (· ≤ ·)) :
    ∀ other ∈ between, other = value := by
  intro other isThere
  obtain ⟨before, rest⟩ := List.pairwise_cons.1 (List.pairwise_append.1 ordered).2.1
  have after := (List.pairwise_append.1 rest).2.2 other isThere value List.mem_cons_self
  exact le_antisymm after (before other (List.mem_append_left _ isThere))

end Lists

section Sections

variable {area : Tree} {chosen : List Spot} {found : List LinkItem}

/-- The items below a section with their spots. -/
def entries (area : Tree) : List (Spot × Tree) :=
  (area.beneath []).filter fun entry => isItem entry.2.element

/-- The first anchor below an item with its spot. -/
def earliest? (entry : Spot × Tree) : Option (Spot × Tree) :=
  (entry.2.beneath entry.1).find? fun anchor => isAnchor anchor.2.element

/-- The anchors that are found in a section with their spots. -/
def picks (area : Tree) : List (Spot × Tree) :=
  (entries area).filterMap earliest?

theorem anchor?_eq (entry : Spot × Tree) :
    anchor? entry.2 = (earliest? entry).map (·.2.element) := by
  unfold anchor? earliest?
  rw [← Tree.map_snd_beneath entry.1, List.map_map, List.find?_map]
  rfl

/-- The anchors of a section are those that are picked. -/
theorem anchors_eq (area : Tree) : anchors area = (picks area).map (·.2.element) := by
  unfold anchors picks entries
  rw [← Tree.map_snd_beneath [] area, List.filter_map, List.filterMap_map, List.map_filterMap]
  exact congrArg (List.filterMap · _) (funext fun entry => anchor?_eq entry)

theorem mem_entries
    {spot : Spot}
    {item : Tree} :
    (spot, item) ∈ entries area ↔
      spot ≠ [] ∧ area.at? spot = some item ∧ isItem item.element = true := by
  unfold entries
  rw [List.mem_filter, Tree.mem_beneath]
  constructor
  · rintro ⟨⟨rest, named, rfl, isThere⟩, isItem⟩
    exact ⟨named, isThere, isItem⟩
  · rintro ⟨named, isThere, isItem⟩
    exact ⟨⟨spot, named, rfl, isThere⟩, isItem⟩

/-- What stands below a tree at a spot stands there in the whole. -/
theorem mem_beneath_iff
    {item : Spot}
    {tree : Tree}
    (isThere : area.at? item = some tree)
    {spot : Spot}
    {anchor : Tree} :
    (spot, anchor) ∈ tree.beneath item ↔
      (∃ rest, rest ≠ [] ∧ spot = item ++ rest) ∧ area.at? spot = some anchor := by
  rw [Tree.mem_beneath]
  constructor
  · rintro ⟨rest, named, rfl, stands⟩
    refine ⟨⟨rest, named, rfl⟩, ?_⟩
    rw [Tree.at?_append, isThere]
    exact stands
  · rintro ⟨⟨rest, named, rfl⟩, stands⟩
    rw [Tree.at?_append, isThere] at stands
    exact ⟨rest, named, rfl, stands⟩

/-- The first anchor of an item is the earliest. -/
theorem earliest_of_earliest?
    {item spot : Spot}
    {tree anchor : Tree}
    (isThere : area.at? item = some tree)
    (first : earliest? (item, tree) = some (spot, anchor)) :
    Earliest area item spot ∧ area.at? spot = some anchor ∧ isAnchor anchor.element = true := by
  unfold earliest? at first
  obtain ⟨isAnchor, before, after, shape, others⟩ := List.find?_eq_some_iff_append.1 first
  have listed : (spot, anchor) ∈ tree.beneath item := List.mem_of_find?_eq_some first
  obtain ⟨under, stands⟩ := (mem_beneath_iff isThere).1 listed
  refine ⟨⟨⟨under, anchor, stands, isAnchor⟩, ?_⟩, stands, isAnchor⟩
  rintro other ⟨isUnder, another, standsThere, isAnother⟩
  have alsoListed : (other, another) ∈ tree.beneath item :=
    (mem_beneath_iff isThere).2 ⟨isUnder, standsThere⟩
  have sorted := tree.pairwise_beneath item
  rw [shape] at alsoListed sorted
  rcases List.mem_append.1 alsoListed with earlier | later
  · have isNone := others _ earlier
    simp [isAnother] at isNone
  · rcases List.mem_cons.1 later with same | later
    · cases same
      exact lt_irrefl _
    · have follows := (List.pairwise_cons.1 (List.pairwise_append.1 sorted).2.1).1 _ later
      exact lt_asymm follows

/-- An item has a first anchor when an anchor stands below it. -/
theorem isSome_earliest?_iff
    {item : Spot}
    {tree : Tree}
    (isThere : area.at? item = some tree) :
    (earliest? (item, tree)).isSome = true ↔ ∃ spot, AnchorUnder area item spot := by
  unfold earliest?
  rw [List.find?_isSome]
  constructor
  · rintro ⟨⟨spot, anchor⟩, listed, isAnchor⟩
    obtain ⟨under, stands⟩ := (mem_beneath_iff isThere).1 listed
    exact ⟨spot, under, anchor, stands, isAnchor⟩
  · rintro ⟨spot, under, anchor, stands, isAnchor⟩
    exact ⟨(spot, anchor), (mem_beneath_iff isThere).2 ⟨under, stands⟩, isAnchor⟩

/-- Anchors that are the earliest ones of items in document order are in this order too. -/
theorem ordered_of_items
    {items : List Spot}
    (sorted : items.Pairwise (· < ·))
    (alike : List.Forall₂ (Earliest area) items chosen) :
    chosen.Pairwise (· ≤ ·) :=
  pairwise_of_forall₂ alike sorted fun _ _ _ _ before _ first _ second => first.le second before

/-- Anchors that are the earliest ones of all items with an anchor, in the order of the items, are
chosen as they should be. -/
theorem chooses_of_items
    (items : List Spot)
    (links : List.Forall₂ (LinkAt area) chosen found)
    (sorted : items.Pairwise (· < ·))
    (complete : ∀ spot, spot ∈ items ↔ ItemAt area spot ∧ ∃ anchor, AnchorUnder area spot anchor)
    (alike : List.Forall₂ (Earliest area) items chosen) :
    Chooses area chosen found where
  links := links
  ordered := ordered_of_items sorted alike
  each := ⟨items, sorted, complete, alike⟩
  count anchor := by
    classical
    have earliest : {item | ItemAt area item ∧ Earliest area item anchor} =
        ((items.filter fun item => Earliest area item anchor).toFinset : Set Spot) := by
      ext item
      simp only [Set.mem_ofPred_eq, List.coe_toFinset, List.mem_filter, complete,
        decide_eq_true_eq]
      constructor
      · rintro ⟨isItem, first⟩
        exact ⟨⟨isItem, anchor, first.1⟩, first⟩
      · rintro ⟨⟨isItem, _⟩, first⟩
        exact ⟨isItem, first⟩
    have distinct : items.Nodup := sorted.imp fun before => ne_of_lt before
    rw [earliest, Set.ncard_coe_finset, List.toFinset_card_of_nodup (distinct.filter _)]
    exact count_of_forall₂ (fun _ _ _ first again => first.eq again) alike anchor
  adjacent anchor earlier between later shape :=
    eq_of_between (shape ▸ ordered_of_items sorted alike)
  strict apart := by
    refine pairwise_of_forall₂ alike sorted ?_
    intro outer isOuter inner isInner before _ first _ second
    refine first.lt second before fun leads => ?_
    have same := apart outer inner ((complete outer).1 isOuter).1 ((complete inner).1 isInner).1
      leads
    exact before.ne same

/-- What is found in a section is chosen as it should be. -/
theorem chooses_links (area : Tree) :
    Chooses area ((picks area).map Prod.fst) (links area) := by
  let linked := (entries area).filter fun entry => (earliest? entry).isSome
  have alike : List.Forall₂ (fun entry pick => Earliest area entry.1 pick.1 ∧
      area.at? pick.1 = some pick.2 ∧ isAnchor pick.2.element = true) linked (picks area) :=
    forall₂_filterMap fun _ isThere _ first =>
      earliest_of_earliest? (mem_entries.1 isThere).2.1 first
  apply chooses_of_items (linked.map Prod.fst)
  case links =>
    unfold Category.links
    rw [anchors_eq, List.map_map, List.forall₂_map_left_iff, List.forall₂_map_right_iff,
      List.forall₂_same]
    intro pick isThere
    obtain ⟨entry, _, _, stands, isAnchor⟩ := exists_of_forall₂ alike isThere
    exact ⟨pick.2, stands, isAnchor, rfl⟩
  case sorted =>
    rw [List.pairwise_map]
    exact ((Tree.pairwise_beneath [] area).filter _).filter _
  case complete =>
    intro spot
    rw [List.mem_map]
    constructor
    · rintro ⟨⟨_, item⟩, isThere, rfl⟩
      obtain ⟨listed, hasAnchor⟩ := List.mem_filter.1 isThere
      obtain ⟨named, stands, isItem⟩ := mem_entries.1 listed
      exact ⟨⟨named, item, stands, isItem⟩, (isSome_earliest?_iff stands).1 hasAnchor⟩
    · rintro ⟨⟨named, item, stands, isItem⟩, hasAnchor⟩
      refine ⟨(spot, item), List.mem_filter.2 ⟨mem_entries.2 ⟨named, stands, isItem⟩, ?_⟩, rfl⟩
      exact (isSome_earliest?_iff stands).2 hasAnchor
  case alike =>
    rw [List.forall₂_map_left_iff, List.forall₂_map_right_iff]
    exact alike.imp fun _ _ both => both.1

/-- What is to be found in a section is told by what is chosen. -/
theorem Chooses.eq
    {others : List Spot}
    {more : List LinkItem}
    (chooses : Chooses area chosen found)
    (again : Chooses area others more) :
    found = more := by
  obtain ⟨items, sorted, complete, alike⟩ := chooses.each
  obtain ⟨itemsAgain, sortedAgain, completeAgain, alikeAgain⟩ := again.each
  have distinct : items.Nodup := sorted.imp fun before => ne_of_lt before
  have distinctAgain : itemsAgain.Nodup := sortedAgain.imp fun before => ne_of_lt before
  have together : items.Perm itemsAgain :=
    (List.perm_ext_iff_of_nodup distinct distinctAgain).2 fun spot =>
      (complete spot).trans (completeAgain spot).symm
  have same : items = itemsAgain :=
    together.eq_of_pairwise (fun _ _ _ _ before after => absurd after (lt_asymm before))
      sorted sortedAgain
  subst same
  have sameChosen : chosen = others :=
    eq_of_forall₂ (fun _ _ _ first again => first.eq again) alike alikeAgain
  subst sameChosen
  refine eq_of_forall₂ ?_ chooses.links again.links
  rintro spot item other ⟨anchor, stands, _, rfl⟩ ⟨another, standsAgain, _, rfl⟩
  rw [stands] at standsAgain
  cases standsAgain
  rfl

end Sections

end CompilePlayground.Category
