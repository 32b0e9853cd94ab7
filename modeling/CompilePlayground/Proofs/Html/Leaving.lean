import CompilePlayground.Html.Document
import Mathlib.Data.Finset.Card

namespace CompilePlayground.Html

/-!
# What the tree of a node depends on

What follows a moment of a walk is told by the node that the moment is about. So a walk that comes out
of its node at last has met no moment twice, and it is over before the fuel is in every document that
has the same nodes where the walk goes. The tree of the node is the same there, whatever else the two
documents hold.
-/

namespace Document

/-- The node that a moment is about. -/
def Step.node : Step → NodeId
  | .enter node => node
  | .leave node => node

/-- The moments of a walk around a node, from one of them on until none follows. -/
inductive Ends (document : Document) (top : NodeId) : Step → List Step → Prop
  | last
      {step : Step}
      (stops : document.nextStep? top step = none) :
      Ends document top step [step]
  | next
      {step between : Step}
      {moments : List Step}
      (follows : document.nextStep? top step = some between)
      (ends : Ends document top between moments) :
      Ends document top step (step :: moments)

variable {document other : Document} {top : NodeId} {step : Step} {moments : List Step}

/-- What follows a moment is told by its node. -/
theorem nextStep?_congr
    (same : other.nodes[step.node]? = document.nodes[step.node]?) :
    other.nextStep? top step = document.nextStep? top step := by
  cases step with
  | enter node =>
      have sameEnds : other.ends? node = document.ends? node := congrArg (Option.bind · _) same
      simp only [nextStep?, sameEnds]
  | leave node =>
      have sameNext : other.next? node = document.next? node := congrArg (Option.bind · _) same
      have sameParent : other.parent? node = document.parent? node :=
        congrArg (Option.bind · _) same
      simp only [nextStep?, sameNext, sameParent]

/-- Nothing follows when a walk comes out of its node. -/
theorem nextStep?_leave_top : document.nextStep? top (.leave top) = none := by
  rw [nextStep?, if_pos rfl]

/-- Nothing follows behind a node that is not there. -/
theorem nextStep?_leave_of_unknown
    {node : NodeId}
    (unknown : document.nodes[node]? = none) :
    document.nextStep? top (.leave node) = none := by
  simp only [nextStep?, next?, parent?, unknown]
  split <;> rfl

/-- A node that is not there is left as soon as it is entered. -/
theorem nextStep?_enter_of_unknown
    {node : NodeId}
    (unknown : document.nodes[node]? = none) :
    document.nextStep? top (.enter node) = some (.leave node) := by
  simp only [nextStep?, ends?, unknown]
  rfl

namespace Ends

/-- What is met from a moment on is told by the moment. -/
theorem eq
    {others : List Step}
    (ends : document.Ends top step moments)
    (again : document.Ends top step others) :
    moments = others := by
  induction ends generalizing others with
  | last stops =>
      cases again with
      | last stopsAgain =>
          rfl
      | next follows again =>
          rw [stops] at follows
          cases follows
  | next follows ends inductionHypothesis =>
      cases again with
      | last stops =>
          rw [stops] at follows
          cases follows
      | next followsAgain again =>
          rw [follows] at followsAgain
          cases followsAgain
          rw [inductionHypothesis again]

/-- From every moment that is met the walk ends in no more moments. -/
theorem later
    {between : Step}
    (ends : document.Ends top step moments)
    (met : between ∈ moments) :
    ∃ rest, document.Ends top between rest ∧ rest.length ≤ moments.length := by
  induction ends with
  | last stops =>
      cases List.mem_singleton.1 met
      exact ⟨_, .last stops, le_rfl⟩
  | next follows ends inductionHypothesis =>
      rcases List.mem_cons.1 met with rfl | met
      · exact ⟨_, .next follows ends, le_rfl⟩
      · obtain ⟨rest, restEnds, short⟩ := inductionHypothesis met
        exact ⟨rest, restEnds, short.trans (Nat.le_succ _)⟩

/-- A walk that ends meets no moment twice. -/
theorem nodup (ends : document.Ends top step moments) : moments.Nodup := by
  induction ends with
  | last stops =>
      exact List.nodup_singleton _
  | @next step between moments follows ends inductionHypothesis =>
      refine List.nodup_cons.2 ⟨fun met => ?_, inductionHypothesis⟩
      -- from a moment met again the walk would end both now and later
      obtain ⟨rest, restEnds, short⟩ := ends.later met
      have same := restEnds.eq (.next follows ends)
      rw [same, List.length_cons] at short
      omega

/-- A moment behind which nothing follows is the only one that is met from there on. -/
theorem eq_singleton
    (ends : document.Ends top step moments)
    (stops : document.nextStep? top step = none) :
    moments = [step] :=
  ends.eq (.last stops)

/-- A walk that comes out of its node goes through nodes that are there. -/
theorem isSome_of_mem
    (ends : document.Ends top step moments)
    (known : document.nodes[top]?.isSome = true)
    (comesOut : Step.leave top ∈ moments)
    {between : Step}
    (met : between ∈ moments) :
    document.nodes[between.node]?.isSome = true := by
  induction ends with
  | last stops =>
      cases List.mem_singleton.1 met
      cases List.mem_singleton.1 comesOut
      exact known
  | @next step following moments follows ends inductionHypothesis =>
      rcases List.mem_cons.1 comesOut with rfl | later
      · rw [nextStep?_leave_top] at follows
        cases follows
      · rcases List.mem_cons.1 met with rfl | met
        · rw [Option.isSome_iff_ne_none]
          intro unknown
          cases between with
          | enter node =>
              cases (nextStep?_enter_of_unknown unknown).symm.trans follows
              rw [ends.eq_singleton (nextStep?_leave_of_unknown unknown)] at later
              cases List.mem_singleton.1 later
              rw [unknown] at known
              cases known
          | leave node =>
              cases (nextStep?_leave_of_unknown unknown).symm.trans follows
        · exact inductionHypothesis later met

/-- A walk that goes through nodes that are there enters and leaves each of them once at most. -/
theorem length_le
    (ends : document.Ends top step moments)
    (known : ∀ between ∈ moments, document.nodes[between.node]?.isSome = true) :
    moments.length ≤ 2 * document.size := by
  classical
  let nodes := Finset.range document.size
  have below : moments.toFinset ⊆ nodes.image Step.enter ∪ nodes.image Step.leave := by
    intro between met
    have isThere := known between (List.mem_toFinset.1 met)
    have small : between.node ∈ nodes := by
      simpa [nodes, size] using isThere
    cases between with
    | enter node =>
        exact Finset.mem_union_left _ (Finset.mem_image_of_mem _ small)
    | leave node =>
        exact Finset.mem_union_right _ (Finset.mem_image_of_mem _ small)
  calc moments.length
      = moments.toFinset.card := (List.toFinset_card_of_nodup ends.nodup).symm
    _ ≤ (nodes.image Step.enter ∪ nodes.image Step.leave).card := Finset.card_le_card below
    _ ≤ nodes.card + nodes.card :=
        (Finset.card_union_le _ _).trans (Nat.add_le_add Finset.card_image_le Finset.card_image_le)
    _ = 2 * document.size := by rw [Finset.card_range, Nat.two_mul]

/-- With enough fuel a walk meets all moments to its end. -/
theorem walkFrom_eq
    (ends : document.Ends top step moments)
    {fuel : Nat}
    (enough : moments.length ≤ fuel)
    (met : List Step) :
    document.walkFrom fuel top met step = met.reverse ++ moments := by
  induction ends generalizing fuel met with
  | last stops =>
      cases fuel with
      | zero =>
          cases enough
      | succ fuel =>
          rw [walkFrom, stops]
          exact List.reverse_cons
  | @next step following moments follows ends inductionHypothesis =>
      cases fuel with
      | zero =>
          cases enough
      | succ fuel =>
          rw [walkFrom, follows]
          dsimp only
          rw [inductionHypothesis (Nat.le_of_succ_le_succ enough), List.reverse_cons,
            List.append_assoc, List.singleton_append]

/-- Where the nodes that are met are the same the same moments are met. -/
theorem congr
    (ends : document.Ends top step moments)
    (same : ∀ between ∈ moments, other.nodes[between.node]? = document.nodes[between.node]?) :
    other.Ends top step moments := by
  induction ends with
  | last stops =>
      exact .last ((nextStep?_congr (same _ List.mem_cons_self)).trans stops)
  | next follows ends inductionHypothesis =>
      exact .next ((nextStep?_congr (same _ List.mem_cons_self)).trans follows)
        (inductionHypothesis fun between met => same between (List.mem_cons_of_mem _ met))

end Ends

/-- A walk that comes out of its node has come to its end. -/
theorem exists_ends_of_walkFrom
    {fuel : Nat}
    {met : List Step}
    (comesOut : Step.leave top ∈ document.walkFrom fuel top met step)
    (inside : Step.leave top ∉ met) :
    ∃ moments, document.Ends top step moments ∧
      document.walkFrom fuel top met step = met.reverse ++ moments := by
  induction fuel generalizing met step with
  | zero =>
      rw [walkFrom, List.mem_reverse] at comesOut
      exact absurd comesOut inside
  | succ fuel inductionHypothesis =>
      rw [walkFrom] at comesOut ⊢
      cases follows : document.nextStep? top step with
      | none =>
          exact ⟨[step], .last follows, List.reverse_cons⟩
      | some next =>
          rw [follows] at comesOut
          have insideStill : Step.leave top ∉ step :: met := by
            rw [List.mem_cons, not_or]
            refine ⟨?_, inside⟩
            rintro rfl
            rw [nextStep?_leave_top] at follows
            cases follows
          obtain ⟨moments, ends, shape⟩ := inductionHypothesis comesOut insideStill
          refine ⟨step :: moments, .next follows ends, ?_⟩
          dsimp only
          rw [shape, List.reverse_cons, List.append_assoc, List.singleton_append]

/-- The walk around a node is the same where the nodes that it meets are the same. -/
theorem walk_congr
    (known : document.nodes[top]?.isSome = true)
    (comesOut : Step.leave top ∈ document.walk top)
    (same : ∀ step ∈ document.walk top, other.nodes[step.node]? = document.nodes[step.node]?) :
    other.walk top = document.walk top := by
  obtain ⟨moments, ends, shape⟩ := exists_ends_of_walkFrom comesOut List.not_mem_nil
  rw [← walk, List.reverse_nil, List.nil_append] at shape
  rw [shape] at comesOut same ⊢
  have knownThere : ∀ step ∈ moments, other.nodes[step.node]?.isSome = true := by
    intro step met
    rw [same step met]
    exact ends.isSome_of_mem known comesOut met
  have endsThere := ends.congr same
  exact endsThere.walkFrom_eq (endsThere.length_le knownThere) []

/-- The tree of a node is the same where the nodes that its walk meets are the same. -/
theorem tree_congr
    (known : document.nodes[top]?.isSome = true)
    (comesOut : Step.leave top ∈ document.walk top)
    (same : ∀ step ∈ document.walk top, other.nodes[step.node]? = document.nodes[step.node]?) :
    other.tree top = document.tree top := by
  have sameBranches : (document.walk top).foldl other.branchesAfter [] =
      (document.walk top).foldl document.branchesAfter [] := by
    apply List.foldl_ext
    intro branches step met
    cases step with
    | enter node =>
        have sameElement : other.element? node = document.element? node :=
          congrArg (Option.bind · _) (same _ met)
        simp only [branchesAfter, sameElement]
    | leave node =>
        rfl
  unfold tree
  rw [walk_congr known comesOut same, sameBranches]

end Document

end CompilePlayground.Html
