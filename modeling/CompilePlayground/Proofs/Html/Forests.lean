import CompilePlayground.Proofs.Html.Growing

namespace CompilePlayground.Html

/-!
# Forests in a document

A whole `Forest` can be put into a node of a document. Its nodes stand in the document one after the
other, each with its own children, and they stay when the document grows elsewhere.
-/

/-- What stands side by side in a node, each with what is in it. -/
inductive Forest where
  | empty
  | node (content : Content) (inside after : Forest)
  deriving Repr

namespace Forest

/-- What the nodes stand for, in document order. -/
def contents : Forest → List Content
  | empty => []
  | node content inside after => content :: (inside.contents ++ after.contents)

/-- The count of nodes. -/
def size (forest : Forest) : Nat :=
  forest.contents.length

theorem size_node (content : Content) (inside after : Forest) :
    (node content inside after).size = 1 + inside.size + after.size := by
  simp only [size, contents, List.length_cons, List.length_append]
  omega

/-- Elements that stand side by side, one for each value of a list. -/
def row {α : Type} (element : α → Element) (inside : α → Forest) : List α → Forest
  | [] => empty
  | value :: values => node (.element (element value)) (inside value) (row element inside values)

/-- The places of the outermost nodes when the first node has a given one. -/
def places (first : Nat) : Forest → List Nat
  | empty => []
  | node _ inside after => first :: after.places (first + 1 + inside.size)

end Forest

namespace Document

/-- Put a forest behind all else in a parent. -/
def grow (document : Document) (parent : Nat) : Forest → Document
  | .empty => document
  | .node content inside after =>
      ((document.add parent content).grow document.size inside).grow parent after

/-- The outermost nodes of a forest are put in one after the other. -/
theorem grow_node
    (document : Document)
    (parent : Nat)
    (content : Content)
    (inside after : Forest) :
    document.grow parent (.node content inside after) =
      (document.grow parent (.node content inside .empty)).grow parent after :=
  rfl

/-- A forest stands in a document from a place on. -/
def Holds (document : Document) (first : Nat) : Forest → Prop
  | .empty => True
  | .node content inside after =>
      document.content? first = some content ∧
        document.childrenOf first = inside.places (first + 1) ∧
        document.Holds (first + 1) inside ∧
        document.Holds (first + 1 + inside.size) after

/-- One document comes from another by putting nodes behind all else in a parent. -/
structure Grown
    (before after : Document)
    (parent : Nat)
    (added : List Nat)
    (contents : List Content) :
    Prop where
  inOrder : after.InOrder
  contents_eq : after.contents = before.contents ++ contents
  childrenOf_parent : after.childrenOf parent = before.childrenOf parent ++ added
  childrenOf_other : ∀ node < before.size, node ≠ parent →
    after.childrenOf node = before.childrenOf node

namespace Grown

variable {before between after : Document} {parent : Nat}
variable {added more : List Nat} {contents others : List Content}

theorem size_eq (grown : Grown before after parent added contents) :
    after.size = before.size + contents.length := by
  rw [← length_contents, grown.contents_eq, List.length_append, length_contents]

theorem lt_size
    (grown : Grown before after parent added contents)
    {node : Nat}
    (known : node < before.size) :
    node < after.size := by
  rw [grown.size_eq]
  exact Nat.lt_add_right _ known

theorem content?_eq
    (grown : Grown before after parent added contents)
    {node : Nat}
    (known : node < before.size) :
    after.content? node = before.content? node := by
  rw [← getElem?_contents, grown.contents_eq, ← getElem?_contents, List.getElem?_append_left]
  rw [length_contents]
  exact known

theorem refl (inOrder : before.InOrder) : Grown before before parent [] [] where
  inOrder := inOrder
  contents_eq := (List.append_nil _).symm
  childrenOf_parent := (List.append_nil _).symm
  childrenOf_other := fun _ _ _ => rfl

theorem trans
    (first : Grown before between parent added contents)
    (second : Grown between after parent more others) :
    Grown before after parent (added ++ more) (contents ++ others) where
  inOrder := second.inOrder
  contents_eq := by
    rw [second.contents_eq, first.contents_eq, List.append_assoc]
  childrenOf_parent := by
    rw [second.childrenOf_parent, first.childrenOf_parent, List.append_assoc]
  childrenOf_other := by
    intro node known other
    rw [second.childrenOf_other node (first.lt_size known) other,
      first.childrenOf_other node known other]

end Grown

/-- A forest that stands in a document stays when the document grows before it. -/
theorem Holds.grown
    {before after : Document}
    {parent first : Nat}
    {added : List Nat}
    {contents : List Content}
    {forest : Forest}
    (holds : before.Holds first forest)
    (grown : Grown before after parent added contents)
    (later : parent < first)
    (fits : first + forest.size ≤ before.size) :
    after.Holds first forest := by
  induction forest generalizing first with
  | empty =>
      trivial
  | node content inside following insideHypothesis followingHypothesis =>
      rw [Forest.size_node] at fits
      obtain ⟨isContent, children, insideHolds, followingHolds⟩ := holds
      have known : first < before.size := by
        omega
      refine ⟨?_, ?_, ?_, ?_⟩
      · rw [grown.content?_eq known]
        exact isContent
      · rw [grown.childrenOf_other first known (Nat.ne_of_gt later)]
        exact children
      · exact insideHypothesis insideHolds (by omega) (by omega)
      · exact followingHypothesis followingHolds (by omega) (by omega)

theorem grown_add
    {document : Document}
    {parent : Nat}
    (inOrder : document.InOrder)
    (inside : parent < document.size)
    (content : Content) :
    Grown document (document.add parent content) parent [document.size] [content] where
  inOrder := inOrder.add inside content
  contents_eq := contents_add inOrder inside content
  childrenOf_parent := by
    rw [childrenOf_add inOrder inside, if_pos rfl]
  childrenOf_other := by
    intro node _ other
    rw [childrenOf_add inOrder inside, if_neg (Ne.symm other)]

/-- A node that is put into a parent and then filled is put into the parent with what it holds. -/
theorem Grown.fill
    {document filled : Document}
    {parent : Nat}
    {content : Content}
    {added : List Nat}
    {contents : List Content}
    (inOrder : document.InOrder)
    (inside : parent < document.size)
    (grown : Grown (document.add parent content) filled document.size added contents) :
    Grown document filled parent [document.size] (content :: contents) ∧
      filled.content? document.size = some content ∧
      filled.childrenOf document.size = added := by
  have new := grown_add inOrder inside content
  have size := size_add document parent content
  refine ⟨⟨grown.inOrder, ?_, ?_, ?_⟩, ?_, ?_⟩
  · rw [grown.contents_eq, new.contents_eq, List.append_assoc, List.singleton_append]
  · rw [grown.childrenOf_other parent (by omega) (Nat.ne_of_lt inside), new.childrenOf_parent]
  · intro node known other
    rw [grown.childrenOf_other node (by omega) (Nat.ne_of_lt known),
      new.childrenOf_other node known other]
  · rw [grown.content?_eq (by omega), content?_add inOrder inside, if_pos rfl]
  · rw [grown.childrenOf_parent, childrenOf_add_new inOrder inside, List.nil_append]

/-- A forest that is put into a node stands behind all that was there. -/
theorem grown_grow
    {document : Document}
    {parent : Nat}
    (inOrder : document.InOrder)
    (inside : parent < document.size)
    (forest : Forest) :
    Grown document (document.grow parent forest) parent (forest.places document.size)
        forest.contents ∧
      (document.grow parent forest).Holds document.size forest := by
  induction forest generalizing document parent with
  | empty =>
      exact ⟨Grown.refl inOrder, trivial⟩
  | node content below following belowHypothesis followingHypothesis =>
      have size := size_add document parent content
      obtain ⟨filling, belowHolds⟩ :=
        belowHypothesis (inOrder.add inside content)
          (by omega : document.size < (document.add parent content).size)
      rw [size] at filling belowHolds
      obtain ⟨first, isContent, children⟩ := filling.fill inOrder inside
      have place :
          ((document.add parent content).grow document.size below).size =
            document.size + 1 + below.size := by
        rw [first.size_eq, List.length_cons, Forest.size]
        omega
      obtain ⟨second, followingHolds⟩ :=
        followingHypothesis first.inOrder
          (by omega :
            parent < ((document.add parent content).grow document.size below).size)
      rw [place] at second followingHolds
      -- The node and what is in it lie before the nodes after it, which are put into its parent.
      rw [grow]
      refine ⟨first.trans second, ?_, ?_, ?_, followingHolds⟩
      · rw [second.content?_eq (by omega : document.size < _), isContent]
      · rw [second.childrenOf_other _ (by omega) (Nat.ne_of_gt inside), children]
      · exact belowHolds.grown second (by omega) (by omega)

/-! ## The node that was made first -/

theorem findIdx?_congr
    {α : Type}
    {first second : α → Bool}
    {list : List α}
    (same : ∀ value ∈ list, first value = second value) :
    list.findIdx? first = list.findIdx? second := by
  induction list with
  | nil =>
      rfl
  | cons value list inductionHypothesis =>
      rw [List.findIdx?_cons, List.findIdx?_cons, same value List.mem_cons_self,
        inductionHypothesis fun other member => same other (List.mem_cons_of_mem value member)]

/-- Every node but the page itself is placed, so that the contents alone tell which element was
made first. -/
theorem InOrder.firstMade?_eq
    {document : Document}
    (inOrder : document.InOrder)
    (wanted : Element → Bool) :
    document.firstMade? wanted = document.contents.findIdx? (·.element?.any wanted) := by
  have listed :
      document.firstMade? wanted = document.nodes.toList.findIdx? (Node.isPlaced wanted) := by
    rw [← List.findIdx?_toArray, Array.toArray_toList, firstMade?]
  rw [listed, contents, List.findIdx?_map]
  refine findIdx?_congr fun node member => ?_
  obtain ⟨index, found⟩ := List.getElem?_of_mem member
  rw [Array.getElem?_toList] at found
  have inside : index < document.size := (Array.getElem?_eq_some_iff.mp found).1
  rcases inOrder.placed index inside with placed | isPage
  · rw [parent?, found, Option.bind_some] at placed
    rw [Node.isPlaced, placed, Bool.true_and]
    rfl
  · rw [content?, found, Option.map_some, Option.some.injEq] at isPage
    rw [Node.isPlaced, Function.comp_apply, isPage]
    exact Bool.and_false _

end Document

end CompilePlayground.Html
