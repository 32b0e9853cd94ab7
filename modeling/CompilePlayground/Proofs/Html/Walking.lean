import CompilePlayground.Proofs.Html.Forests

namespace CompilePlayground.Html

/-!
# The tree of a node

The walk around a node of a document in order enters and leaves the nodes of the forest below it
one after the other. The branches that it goes along make up the trees of that forest, so that
`Document.tree` gives a node with exactly what was put into it.
-/

namespace Forest

/-- The elements as trees. What is in a node that is no element counts as standing beside it. -/
def trees : Forest → List Tree
  | empty => []
  | node content inside after =>
      match content.element? with
      | some element => .node element inside.trees :: after.trees
      | none => inside.trees ++ after.trees

/-- The moments of a walk through the nodes when the first one has a given place. -/
def moments (first : Nat) : Forest → List Document.Step
  | empty => []
  | node _ inside after =>
      .enter first :: inside.moments (first + 1) ++
        .leave first :: after.moments (first + 1 + inside.size)

theorem length_moments (forest : Forest) (first : Nat) :
    (forest.moments first).length = 2 * forest.size := by
  induction forest generalizing first with
  | empty =>
      rfl
  | node content inside after insideHypothesis afterHypothesis =>
      simp only [moments, List.length_append, List.length_cons, insideHypothesis,
        afterHypothesis, size_node]
      omega

/-- The moment that follows when a walk comes to the nodes in a parent. -/
def firstStep (parent first : Nat) : Forest → Document.Step
  | empty => .leave parent
  | node _ _ _ => .enter first

end Forest

namespace Document

/-! ## The moments -/

/-- The walk around a node meets some moments from one of them on and then comes to another. -/
def Leads
    (document : Document)
    (top : Nat)
    (step : Step)
    (moments : List Step)
    (next : Step) :
    Prop :=
  ∀ fuel met,
    document.walkFrom (fuel + moments.length) top met step =
      document.walkFrom fuel top (moments.reverse ++ met) next

namespace Leads

variable {document : Document} {top : Nat} {step between next : Step}
variable {moments later : List Step}

theorem refl : document.Leads top step [] step :=
  fun _ _ => rfl

theorem cons
    (follows : document.nextStep? top step = some between)
    (leads : document.Leads top between moments next) :
    document.Leads top step (step :: moments) next := by
  intro fuel met
  rw [List.length_cons, ← Nat.add_assoc, walkFrom, follows]
  dsimp only
  rw [leads, List.reverse_cons, List.append_assoc, List.singleton_append]

theorem trans
    (first : document.Leads top step moments between)
    (second : document.Leads top between later next) :
    document.Leads top step (moments ++ later) next := by
  intro fuel met
  rw [List.length_append, Nat.add_comm moments.length, ← Nat.add_assoc, first, second,
    List.reverse_append, List.append_assoc]

end Leads

/-- From a node the walk goes into the forest below it. -/
theorem nextStep?_enter
    {document : Document}
    (inOrder : document.InOrder)
    {forest : Forest}
    {node first : Nat}
    (known : node < document.size)
    (listed : document.childrenOf node = forest.places first)
    (top : Nat) :
    document.nextStep? top (.enter node) = some (forest.firstStep node first) := by
  rw [nextStep?, inOrder.ends node known, listed]
  cases forest with
  | empty =>
      rfl
  | node content inside after =>
      rfl

/-- Behind a node the walk goes on to those after it, or out of their parent. -/
theorem nextStep?_leave
    {document : Document}
    (inOrder : document.InOrder)
    {forest : Forest}
    {top parent node next : Nat}
    {before : List Nat}
    (listed : document.childrenOf parent = before ++ node :: forest.places next)
    (below : top < node) :
    document.nextStep? top (.leave node) = some (forest.firstStep parent next) := by
  rw [nextStep?, if_neg (Nat.ne_of_gt below), inOrder.next listed]
  cases forest with
  | empty =>
      rw [Forest.places, List.head?_nil]
      dsimp only
      rw [mem_childrenOf.mp (mem_of_listed listed)]
      rfl
  | node content inside after =>
      rfl

/-- The walk goes through the nodes that stand in a parent and then leaves the parent. -/
theorem leads_moments
    {document : Document}
    (inOrder : document.InOrder)
    {forest : Forest}
    {top parent first : Nat}
    {before : List Nat}
    (holds : document.Holds first forest)
    (listed : document.childrenOf parent = before ++ forest.places first)
    (below : top < first) :
    document.Leads top (forest.firstStep parent first) (forest.moments first)
      (.leave parent) := by
  induction forest generalizing parent first before with
  | empty =>
      exact Leads.refl
  | node content inside after insideHypothesis afterHypothesis =>
      obtain ⟨isContent, children, insideHolds, afterHolds⟩ := holds
      have known : first < document.size := by
        rw [← length_contents]
        rw [← getElem?_contents] at isContent
        exact (List.getElem?_eq_some_iff.mp isContent).1
      have through : document.Leads top (inside.firstStep first (first + 1))
          (inside.moments (first + 1)) (.leave first) :=
        insideHypothesis insideHolds
          (by exact children : _ = [] ++ inside.places (first + 1)) (by omega)
      have beyond : document.childrenOf parent =
          (before ++ [first]) ++ after.places (first + 1 + inside.size) := by
        rw [listed, List.append_assoc]
        rfl
      have rest := afterHypothesis afterHolds beyond (by omega)
      have entered := nextStep?_enter inOrder known children top
      have left := nextStep?_leave inOrder listed below
      exact (through.cons entered).trans (rest.cons left)

/-- The walk around a node meets the forest below it. -/
theorem walk_eq
    {document : Document}
    (inOrder : document.InOrder)
    {content : Content}
    {inside after : Forest}
    {top : Nat}
    (holds : document.Holds top (.node content inside after))
    (fits : top + 1 + inside.size ≤ document.size) :
    document.walk top = .enter top :: inside.moments (top + 1) ++ [.leave top] := by
  obtain ⟨_, children, insideHolds, _⟩ := holds
  have through := leads_moments inOrder insideHolds
    (by exact children : _ = [] ++ inside.places (top + 1)) (Nat.lt_succ_self top)
  have entered := nextStep?_enter inOrder (by omega) children top
  have length := inside.length_moments (top + 1)
  obtain ⟨spare, enough⟩ : ∃ spare,
      2 * document.size =
        spare + 1 + (Step.enter top :: inside.moments (top + 1)).length := by
    refine ⟨2 * document.size - 2 - 2 * inside.size, ?_⟩
    rw [List.length_cons]
    omega
  have ended : document.nextStep? top (.leave top) = none := by
    rw [nextStep?, if_pos rfl]
  rw [walk, enough, through.cons entered, walkFrom, ended]
  simp

/-! ## The branches -/

theorem element?_of_content?
    {document : Document}
    {node : Nat}
    {content : Content}
    (found : document.content? node = some content) :
    document.element? node = content.element? := by
  obtain ⟨whole, isNode, rfl⟩ := Option.map_eq_some_iff.mp found
  rw [element?, isNode, Option.bind_some]

/-- Leaving an element puts its tree into the branch around it. -/
theorem branchesAfter_leave
    (document : Document)
    (inner branch : Branch)
    (outer : List Branch) :
    document.branchesAfter (inner :: branch :: outer) (.leave inner.node) =
      { branch with trees := inner.tree :: branch.trees } :: outer := by
  have opened : (inner :: branch :: outer).any (·.node = inner.node) = true := by
    rw [List.any_cons, decide_eq_true rfl, Bool.true_or]
  rw [branchesAfter, if_pos opened, leaveBranches, if_pos rfl]

/-- Leaving what is no element changes nothing. -/
theorem branchesAfter_leave_of_later
    (document : Document)
    {node : Nat}
    {branches : List Branch}
    (earlier : ∀ branch ∈ branches, branch.node < node) :
    document.branchesAfter branches (.leave node) = branches := by
  have closed : ¬branches.any (·.node = node) = true := by
    rw [List.any_eq_true]
    rintro ⟨branch, member, same⟩
    exact Nat.ne_of_lt (earlier branch member) (of_decide_eq_true same)
  rw [branchesAfter, if_neg closed]

/-- A walk through a forest puts its trees into the branch that it stands in. -/
theorem foldl_branchesAfter
    {document : Document}
    {forest : Forest}
    {first : Nat}
    (holds : document.Holds first forest)
    (branch : Branch)
    (outer : List Branch)
    (earlier : ∀ other ∈ branch :: outer, other.node < first) :
    (forest.moments first).foldl document.branchesAfter (branch :: outer) =
      { branch with trees := forest.trees.reverse ++ branch.trees } :: outer := by
  induction forest generalizing first branch outer with
  | empty =>
      rfl
  | node content inside after insideHypothesis afterHypothesis =>
      obtain ⟨isContent, children, insideHolds, afterHolds⟩ := holds
      have found := element?_of_content? isContent
      have stillEarlier : ∀ next, first < next → ∀ trees : List Tree,
          ∀ other ∈ { branch with trees } :: outer, other.node < next := by
        intro next behind trees other member
        rcases List.mem_cons.mp member with rfl | member
        · exact Nat.lt_trans (earlier branch List.mem_cons_self) behind
        · exact Nat.lt_trans (earlier other (List.mem_cons_of_mem branch member)) behind
      have beyond : first < first + 1 + inside.size := by
        omega
      rw [Forest.moments, List.cons_append, List.foldl_cons, List.foldl_append, List.foldl_cons]
      -- An element opens a branch of its own; anything else leaves its trees to the branch around.
      cases isElement : content.element? with
      | some element =>
          have entered : document.branchesAfter (branch :: outer) (.enter first) =
              ⟨first, element, []⟩ :: branch :: outer := by
            rw [branchesAfter, found, isElement]
          have inner : ∀ other ∈ (⟨first, element, []⟩ : Branch) :: branch :: outer,
              other.node < first + 1 := by
            intro other member
            rcases List.mem_cons.mp member with rfl | member
            · exact Nat.lt_succ_self first
            · exact stillEarlier _ (Nat.lt_succ_self first) branch.trees other member
          rw [entered, insideHypothesis insideHolds _ _ inner,
            branchesAfter_leave document ⟨first, element, inside.trees.reverse ++ []⟩,
            afterHypothesis afterHolds _ _ (stillEarlier _ beyond _), Forest.trees, isElement]
          simp [Branch.tree]
      | none =>
          have entered : document.branchesAfter (branch :: outer) (.enter first) =
              branch :: outer := by
            rw [branchesAfter, found, isElement]
          rw [entered, insideHypothesis insideHolds _ _
              (stillEarlier _ (Nat.lt_succ_self first) branch.trees),
            branchesAfter_leave_of_later document,
            afterHypothesis afterHolds _ _ (stillEarlier _ beyond _), Forest.trees, isElement]
          · simp
          · intro other member
            rcases List.mem_cons.mp member with rfl | member
            · exact earlier branch List.mem_cons_self
            · exact earlier other (List.mem_cons_of_mem branch member)

/-- The tree of an element holds the trees of the forest below it. -/
theorem tree_eq
    {document : Document}
    (inOrder : document.InOrder)
    {element : Element}
    {inside after : Forest}
    {top : Nat}
    (holds : document.Holds top (.node (.element element) inside after))
    (fits : top + 1 + inside.size ≤ document.size) :
    document.tree top = .node element inside.trees := by
  have found : document.element? top = some element := element?_of_content? holds.1
  have entered : document.branchesAfter [] (.enter top) = [⟨top, element, []⟩] := by
    rw [branchesAfter, found]
  have opened : ([⟨top, element, inside.trees.reverse ++ []⟩] : List Branch).any
      (·.node = top) = true := by
    rw [List.any_cons, decide_eq_true rfl, Bool.true_or]
  have inner : ∀ other ∈ ([⟨top, element, []⟩] : List Branch), other.node < top + 1 := by
    intro other member
    cases List.mem_singleton.mp member
    exact Nat.lt_succ_self top
  rw [tree, walk_eq inOrder holds fits, List.cons_append, List.foldl_cons, List.foldl_append,
    entered, foldl_branchesAfter holds.2.2.1 _ _ inner, List.foldl_cons, List.foldl_nil,
    branchesAfter, if_pos opened, leaveBranches]
  simp [Branch.tree]

end Document

end CompilePlayground.Html
