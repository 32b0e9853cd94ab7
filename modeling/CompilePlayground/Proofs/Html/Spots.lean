import CompilePlayground.Html.Tree
import Mathlib.Data.List.Lex

namespace CompilePlayground.Html

/-!
# Where trees stand in a tree

A tree below another one stands at a `Spot`, the numbers of the children that lead to it. In document
order a spot comes before those that go on from it, and those before the spots of the next child,
which is the order of lists of numbers. `Tree.beneath` lists the trees below the top with their spots,
in this order.
-/

/-- The numbers of the children to go through. -/
abbrev Spot := List Nat

namespace Spot

variable {first second : Spot}

/-- What goes on from a spot comes after it. -/
theorem lt_append
    (spot : Spot)
    {rest : Spot}
    (named : rest ≠ []) :
    spot < spot ++ rest := by
  obtain ⟨index, more, rfl⟩ := List.exists_cons_of_ne_nil named
  have longer : spot ++ [] < spot ++ index :: more :=
    List.append_left_lt (List.nil_lt_cons index more)
  rwa [List.append_nil] at longer

/-- What goes on from two children comes in the order of the children. -/
theorem append_cons_lt
    (spot : Spot)
    {index other : Nat}
    (before : index < other)
    (rest more : Spot) :
    spot ++ index :: rest < spot ++ other :: more :=
  List.append_left_lt (List.cons_lt_cons_iff.2 (.inl before))

/-- A spot from which another does not go on comes before it with all that goes on from either. -/
theorem append_lt_append
    (before : first < second)
    (apart : ¬first <+: second)
    (rest more : Spot) :
    first ++ rest < second ++ more := by
  induction before with
  | nil =>
      exact absurd (List.nil_prefix) apart
  | cons before inductionHypothesis =>
      rw [List.cons_append, List.cons_append, List.cons_lt_cons_iff]
      refine .inr ⟨rfl, inductionHypothesis fun leads => apart ?_⟩
      exact (List.prefix_cons_inj _).2 leads
  | rel before =>
      rw [List.cons_append, List.cons_append, List.cons_lt_cons_iff]
      exact .inl before

end Spot

namespace Tree

/-- What stands at a spot. -/
def at? : Tree → Spot → Option Tree
  | tree, [] => some tree
  | tree, index :: rest => (tree.children[index]?).bind (·.at? rest)

mutual

/-- The tree itself and every tree below it, in document order, when it stands at some spot. -/
def marked (spot : Spot) : Tree → List (Spot × Tree)
  | .node element children => (spot, .node element children) :: markedAll spot 0 children

/-- Every tree of a list and below one of them, in document order, when they are children from some
number on. -/
def markedAll (spot : Spot) (index : Nat) : List Tree → List (Spot × Tree)
  | [] => []
  | tree :: trees => tree.marked (spot ++ [index]) ++ markedAll spot (index + 1) trees

end

/-- Every tree below the top, in document order, when the top stands at some spot. -/
def beneath (spot : Spot) (tree : Tree) : List (Spot × Tree) :=
  markedAll spot 0 tree.children

/-- What is reached in two stages is reached at once. -/
theorem at?_append (tree : Tree) (spot rest : Spot) :
    tree.at? (spot ++ rest) = (tree.at? spot).bind (·.at? rest) := by
  induction spot generalizing tree with
  | nil =>
      rfl
  | cons index spot inductionHypothesis =>
      rw [List.cons_append, at?, at?, Option.bind_assoc]
      simp only [inductionHypothesis]

mutual

theorem map_snd_marked (spot : Spot) (tree : Tree) :
    (tree.marked spot).map Prod.snd = tree.subtrees := by
  cases tree with
  | node element children =>
      rw [marked, subtrees, List.map_cons, map_snd_markedAll]

theorem map_snd_markedAll (spot : Spot) (index : Nat) (trees : List Tree) :
    (markedAll spot index trees).map Prod.snd = subtreesOfAll trees := by
  cases trees with
  | nil =>
      rw [markedAll, subtreesOfAll, List.map_nil]
  | cons tree trees =>
      rw [markedAll, subtreesOfAll, List.map_append, map_snd_marked, map_snd_markedAll]

end

/-- The trees below the top are its descendants. -/
theorem map_snd_beneath (spot : Spot) (tree : Tree) :
    (tree.beneath spot).map Prod.snd = tree.descendants :=
  map_snd_markedAll spot 0 tree.children

mutual

theorem mem_marked
    {spot place : Spot}
    {tree found : Tree} :
    (place, found) ∈ tree.marked spot ↔
      ∃ rest, place = spot ++ rest ∧ tree.at? rest = some found := by
  cases tree with
  | node element children =>
      rw [marked, List.mem_cons, mem_markedAll]
      constructor
      · rintro (here | ⟨offset, rest, rfl, isThere⟩)
        · cases here
          exact ⟨[], (List.append_nil _).symm, rfl⟩
        · rw [Nat.zero_add]
          exact ⟨offset :: rest, rfl, isThere⟩
      · rintro ⟨rest, rfl, isThere⟩
        cases rest with
        | nil =>
            cases isThere
            exact .inl (by rw [List.append_nil])
        | cons offset rest =>
            exact .inr ⟨offset, rest, by rw [Nat.zero_add], isThere⟩

theorem mem_markedAll
    {spot place : Spot}
    {index : Nat}
    {trees : List Tree}
    {found : Tree} :
    (place, found) ∈ markedAll spot index trees ↔
      ∃ offset rest, place = spot ++ (index + offset) :: rest ∧
        (trees[offset]?).bind (·.at? rest) = some found := by
  cases trees with
  | nil =>
      simp [markedAll]
  | cons tree trees =>
      rw [markedAll, List.mem_append, mem_marked, mem_markedAll]
      constructor
      · rintro (⟨rest, rfl, isThere⟩ | ⟨offset, rest, rfl, isThere⟩)
        · exact ⟨0, rest, List.append_assoc spot [index] rest, isThere⟩
        · refine ⟨offset + 1, rest, ?_, isThere⟩
          rw [Nat.add_right_comm, Nat.add_assoc]
      · rintro ⟨offset, rest, rfl, isThere⟩
        cases offset with
        | zero =>
            exact .inl ⟨rest, (List.append_assoc spot [index] rest).symm, isThere⟩
        | succ offset =>
            refine .inr ⟨offset, rest, ?_, isThere⟩
            rw [Nat.add_right_comm, Nat.add_assoc]

end

/-- What is listed below the top is what stands at a spot that goes on from the top. -/
theorem mem_beneath
    {spot place : Spot}
    {tree found : Tree} :
    (place, found) ∈ tree.beneath spot ↔
      ∃ rest, rest ≠ [] ∧ place = spot ++ rest ∧ tree.at? rest = some found := by
  unfold beneath
  rw [mem_markedAll]
  constructor
  · rintro ⟨offset, rest, rfl, isThere⟩
    exact ⟨offset :: rest, List.cons_ne_nil _ _, by rw [Nat.zero_add], isThere⟩
  · rintro ⟨rest, named, rfl, isThere⟩
    obtain ⟨offset, more, rfl⟩ := List.exists_cons_of_ne_nil named
    exact ⟨offset, more, by rw [Nat.zero_add], isThere⟩

mutual

theorem pairwise_marked (spot : Spot) (tree : Tree) :
    (tree.marked spot).Pairwise fun first second => first.1 < second.1 := by
  cases tree with
  | node element children =>
      rw [marked, List.pairwise_cons]
      refine ⟨?_, pairwise_markedAll spot 0 children⟩
      rintro ⟨place, found⟩ isThere
      obtain ⟨offset, rest, rfl, _⟩ := mem_markedAll.1 isThere
      exact Spot.lt_append spot (List.cons_ne_nil _ _)

theorem pairwise_markedAll (spot : Spot) (index : Nat) (trees : List Tree) :
    (markedAll spot index trees).Pairwise fun first second => first.1 < second.1 := by
  cases trees with
  | nil =>
      rw [markedAll]
      exact .nil
  | cons tree trees =>
      rw [markedAll, List.pairwise_append]
      refine ⟨pairwise_marked _ tree, pairwise_markedAll _ _ trees, ?_⟩
      rintro ⟨one, first⟩ isFirst ⟨two, second⟩ isSecond
      obtain ⟨rest, rfl, _⟩ := mem_marked.1 isFirst
      obtain ⟨offset, more, rfl, _⟩ := mem_markedAll.1 isSecond
      rw [List.append_assoc]
      exact Spot.append_cons_lt spot (by omega) rest more

end

/-- Trees are listed in document order. -/
theorem pairwise_beneath (spot : Spot) (tree : Tree) :
    (tree.beneath spot).Pairwise fun first second => first.1 < second.1 :=
  pairwise_markedAll spot 0 tree.children

end Tree

end CompilePlayground.Html
