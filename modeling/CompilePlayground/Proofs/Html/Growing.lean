import CompilePlayground.Html.Document

namespace CompilePlayground.Html

/-!
# Documents that grow at the end

A page whose elements do not move grows by nodes that are put behind all others in their parent.
The children of a node of such a document are those nodes that name it as their parent, in the
order in which they were made, and the links between the nodes say the same. `InOrder.add` keeps
that for one more node.
-/

/-- The first and the last of some nodes. -/
def outermost : List NodeId → Option (NodeId × NodeId)
  | [] => none
  | first :: rest => some (first, rest.getLast?.getD first)

theorem outermost_map_snd (nodes : List NodeId) :
    (outermost nodes).map (·.2) = nodes.getLast? := by
  cases nodes with
  | nil =>
      rfl
  | cons first rest =>
      rw [List.getLast?_cons]
      rfl

theorem outermost_append_singleton (nodes : List NodeId) (last : NodeId) :
    outermost (nodes ++ [last]) =
      some (((outermost nodes).map (·.1)).getD last, last) := by
  cases nodes with
  | nil =>
      rfl
  | cons first rest =>
      simp [outermost]

namespace Document

/-- What a node stands for. -/
def content? (document : Document) (node : NodeId) : Option Content :=
  document.nodes[node]?.map (·.content)

/-- What the nodes stand for, oldest first. -/
def contents (document : Document) : List Content :=
  document.nodes.toList.map (·.content)

theorem getElem?_contents (document : Document) (node : NodeId) :
    document.contents[node]? = document.content? node := by
  rw [contents, content?, List.getElem?_map, Array.getElem?_toList]

theorem length_contents (document : Document) : document.contents.length = document.size := by
  rw [contents, List.length_map, Array.length_toList, size]

/-- The nodes that name a parent, oldest first. -/
def childrenOf (document : Document) (parent : NodeId) : List NodeId :=
  (List.range document.size).filter (document.parent? · = some parent)

/-- Make a node and put it behind all others in a parent. -/
def add (document : Document) (parent : NodeId) (content : Content) : Document :=
  let (document, node) := document.create content
  document.append parent node

/-- A document whose nodes were each put behind all others in their parent. -/
structure InOrder (document : Document) : Prop where
  ends : ∀ node < document.size,
    document.ends? node = outermost (document.childrenOf node)
  previous : ∀ {parent before child after},
    document.childrenOf parent = before ++ child :: after →
      document.previous? child = before.getLast?
  next : ∀ {parent before child after},
    document.childrenOf parent = before ++ child :: after →
      document.next? child = after.head?
  later : ∀ {parent child}, document.parent? child = some parent → parent < child
  placed : ∀ node < document.size,
    (document.parent? node).isSome ∨ document.content? node = some .page

theorem mem_childrenOf
    {document : Document}
    {parent child : NodeId} :
    child ∈ document.childrenOf parent ↔ document.parent? child = some parent := by
  rw [childrenOf, List.mem_filter, List.mem_range, decide_eq_true_iff]
  constructor
  · rintro ⟨_, named⟩
    exact named
  · intro named
    refine ⟨?_, named⟩
    rcases Nat.lt_or_ge child document.size with inside | outside
    · exact inside
    · rw [parent?, Array.getElem?_eq_none outside] at named
      cases named

theorem lt_size_of_mem_childrenOf
    {document : Document}
    {parent child : NodeId}
    (member : child ∈ document.childrenOf parent) :
    child < document.size := by
  rw [childrenOf, List.mem_filter, List.mem_range] at member
  exact member.1

theorem nodup_childrenOf (document : Document) (parent : NodeId) :
    (document.childrenOf parent).Nodup :=
  List.nodup_range.filter _

theorem mem_of_listed
    {document : Document}
    {parent child : NodeId}
    {before after : List NodeId}
    (listed : document.childrenOf parent = before ++ child :: after) :
    child ∈ document.childrenOf parent := by
  rw [listed]
  exact List.mem_append_right before List.mem_cons_self

theorem lt_size_of_listed
    {document : Document}
    {parent child : NodeId}
    {before after : List NodeId}
    (listed : document.childrenOf parent = before ++ child :: after) :
    child < document.size :=
  lt_size_of_mem_childrenOf (mem_of_listed listed)

/-- A node that is yet to be made has no children. -/
theorem InOrder.childrenOf_size
    {document : Document}
    (inOrder : document.InOrder) :
    document.childrenOf document.size = [] := by
  rw [List.eq_nil_iff_forall_not_mem]
  intro child member
  have later := inOrder.later (mem_childrenOf.mp member)
  exact Nat.lt_asymm later (lt_size_of_mem_childrenOf member)

theorem childrenOf_empty (parent : NodeId) : Document.empty.childrenOf parent = [] := by
  rw [List.eq_nil_iff_forall_not_mem]
  intro child member
  have isRoot : child = 0 := Nat.lt_one_iff.mp (lt_size_of_mem_childrenOf member)
  subst isRoot
  cases mem_childrenOf.mp member

theorem InOrder.empty : Document.empty.InOrder where
  ends := by
    decide
  previous := by
    intro parent before child after listed
    rw [childrenOf_empty] at listed
    cases before <;> cases listed
  next := by
    intro parent before child after listed
    rw [childrenOf_empty] at listed
    cases before <;> cases listed
  later := by
    intro parent child named
    rw [← mem_childrenOf, childrenOf_empty] at named
    cases named
  placed := by
    decide

/-! ## One more node -/

theorem getElem?_update
    (document : Document)
    (node : NodeId)
    (change : Node → Node)
    (other : NodeId) :
    (document.update node change).nodes[other]? =
      if node = other then document.nodes[other]?.map change else document.nodes[other]? :=
  Array.getElem?_modify

theorem getElem?_updateOpt
    (document : Document)
    (node? : Option NodeId)
    (change : Node → Node)
    (other : NodeId) :
    (document.updateOpt node? change).nodes[other]? =
      if node? = some other then document.nodes[other]?.map change else document.nodes[other]? := by
  cases node? with
  | none =>
      rfl
  | some node =>
      simp only [updateOpt, getElem?_update, Option.some.injEq]

theorem getElem?_create (document : Document) (content : Content) (other : NodeId) :
    (document.create content).1.nodes[other]? =
      if other = document.size then some (.alone content) else document.nodes[other]? :=
  Array.getElem?_push

theorem snd_create (document : Document) (content : Content) :
    (document.create content).2 = document.size :=
  rfl

theorem size_update (document : Document) (node : NodeId) (change : Node → Node) :
    (document.update node change).size = document.size :=
  Array.size_modify

theorem size_updateOpt (document : Document) (node? : Option NodeId) (change : Node → Node) :
    (document.updateOpt node? change).size = document.size := by
  cases node? with
  | none =>
      rfl
  | some node =>
      exact size_update document node change

theorem size_add (document : Document) (parent : NodeId) (content : Content) :
    (document.add parent content).size = document.size + 1 := by
  simp only [add, append, size_update, size_updateOpt]
  exact Array.size_push _

theorem size_lt_size_add (document : Document) (parent : NodeId) (content : Content) :
    document.size < (document.add parent content).size := by
  rw [size_add]
  exact Nat.lt_succ_self document.size

section Add

variable {document : Document} {parent : NodeId}
variable (inOrder : document.InOrder) (inside : parent < document.size)
include inOrder inside

/-- A new node is linked to its parent and to the child that was the last one. -/
theorem getElem?_add (content : Content) (node : NodeId) :
    (document.add parent content).nodes[node]? =
      if node = document.size then
        some ⟨content, some parent, (document.childrenOf parent).getLast?, none, none⟩
      else
        document.nodes[node]?.map fun before =>
          { before with
            next? :=
              if (document.childrenOf parent).getLast? = some node then some document.size
              else before.next?
            ends? :=
              if parent = node then outermost (document.childrenOf parent ++ [document.size])
              else before.ends? } := by
  have known : (document.create content).1.ends? parent = document.ends? parent := by
    rw [ends?, getElem?_create, if_neg (Nat.ne_of_lt inside), ends?]
  have last : ((document.create content).1.ends? parent).map (·.2) =
      (document.childrenOf parent).getLast? := by
    rw [known, inOrder.ends parent inside, outermost_map_snd]
  have notNew : (document.childrenOf parent).getLast? ≠ some document.size := by
    intro same
    exact Nat.lt_irrefl _ (lt_size_of_mem_childrenOf (List.mem_of_getLast? same))
  simp only [add, append, last, getElem?_update, getElem?_updateOpt, getElem?_create, snd_create]
  by_cases isNew : node = document.size
  · subst isNew
    simp [notNew, Nat.ne_of_lt inside, Node.alone]
  · cases found : document.nodes[node]? with
    | none =>
        simp [isNew]
    | some before =>
        by_cases isParent : parent = node
        · subst isParent
          have ends : outermost (document.childrenOf parent) = before.ends? := by
            rw [← inOrder.ends parent inside, ends?, found]
            rfl
          simp only [isNew, Ne.symm isNew, if_true, if_false, outermost_append_singleton, ends]
          split <;> rfl
        · simp only [isNew, Ne.symm isNew, isParent, if_false]
          split <;> rfl

theorem parent?_add (content : Content) (node : NodeId) :
    (document.add parent content).parent? node =
      if node = document.size then some parent else document.parent? node := by
  rw [parent?, getElem?_add inOrder inside]
  split
  · rfl
  · rw [Option.bind_map]
    rfl

theorem content?_add (content : Content) (node : NodeId) :
    (document.add parent content).content? node =
      if node = document.size then some content else document.content? node := by
  rw [content?, getElem?_add inOrder inside]
  split
  · rfl
  · rw [Option.map_map]
    rfl

theorem previous?_add (content : Content) (node : NodeId) :
    (document.add parent content).previous? node =
      if node = document.size then (document.childrenOf parent).getLast?
      else document.previous? node := by
  rw [previous?, getElem?_add inOrder inside]
  split
  · rfl
  · rw [Option.bind_map]
    rfl

theorem ends?_add
    (content : Content)
    {node : NodeId}
    (known : node < document.size) :
    (document.add parent content).ends? node =
      if parent = node then outermost (document.childrenOf parent ++ [document.size])
      else document.ends? node := by
  rw [ends?, getElem?_add inOrder inside, if_neg (Nat.ne_of_lt known), ends?,
    Array.getElem?_eq_getElem known]
  split
  · rfl
  · rfl

theorem next?_add
    (content : Content)
    {node : NodeId}
    (known : node < document.size) :
    (document.add parent content).next? node =
      if (document.childrenOf parent).getLast? = some node then some document.size
      else document.next? node := by
  rw [next?, getElem?_add inOrder inside, if_neg (Nat.ne_of_lt known), next?,
    Array.getElem?_eq_getElem known]
  split
  · rfl
  · rfl

theorem childrenOf_add (content : Content) (node : NodeId) :
    (document.add parent content).childrenOf node =
      if parent = node then document.childrenOf parent ++ [document.size]
      else document.childrenOf node := by
  have before :
      (List.range document.size).filter
          ((document.add parent content).parent? · = some node) =
        document.childrenOf node := by
    refine List.filter_congr fun child member => ?_
    rw [parent?_add inOrder inside, if_neg (Nat.ne_of_lt (List.mem_range.mp member))]
  rw [childrenOf, size_add, List.range_succ, List.filter_append, before]
  split
  · rename_i same
    subst same
    simp [parent?_add inOrder inside]
  · rename_i other
    simp [parent?_add inOrder inside, other]

/-- A new node has no neighbour after it. -/
theorem next?_add_new (content : Content) :
    (document.add parent content).next? document.size = none := by
  rw [next?, getElem?_add inOrder inside, if_pos rfl]
  rfl

/-- A new node holds nothing. -/
theorem ends?_add_new (content : Content) :
    (document.add parent content).ends? document.size = none := by
  rw [ends?, getElem?_add inOrder inside, if_pos rfl]
  rfl

/-- A child is the new node, or it was a child before and only the new node may have come behind
those that follow it. -/
theorem childrenOf_add_cases
    {content : Content}
    {other child : NodeId}
    {before after : List NodeId}
    (listed : (document.add parent content).childrenOf other = before ++ child :: after) :
    (child = document.size ∧ document.childrenOf parent = before ∧ after = []) ∨
      ∃ earlier, document.childrenOf other = before ++ child :: earlier ∧
        ((other = parent ∧ after = earlier ++ [document.size]) ∨
          (other ≠ parent ∧ after = earlier)) := by
  rw [childrenOf_add inOrder inside] at listed
  split at listed
  · rename_i same
    subst same
    rcases List.eq_nil_or_concat after with rfl | ⟨earlier, last, rfl⟩
    · obtain ⟨whole, new⟩ := List.append_inj' listed rfl
      cases new
      exact .inl ⟨rfl, whole, rfl⟩
    · rw [List.concat_eq_append, ← List.cons_append, ← List.append_assoc] at listed
      obtain ⟨whole, new⟩ := List.append_inj' listed rfl
      cases new
      exact .inr ⟨earlier, whole, .inl ⟨rfl, List.concat_eq_append⟩⟩
  · rename_i other
    exact .inr ⟨after, listed, .inr ⟨Ne.symm other, rfl⟩⟩

/-- A document stays in order when a node is added. -/
theorem InOrder.add (content : Content) : (document.add parent content).InOrder where
  ends := by
    intro node small
    rw [size_add] at small
    rw [childrenOf_add inOrder inside]
    rcases Nat.lt_succ_iff_lt_or_eq.mp small with known | rfl
    · rw [ends?_add inOrder inside content known]
      split
      · rfl
      · exact inOrder.ends node known
    · rw [ends?_add_new inOrder inside, if_neg (Nat.ne_of_lt inside),
        inOrder.childrenOf_size]
      rfl
  previous := by
    intro other before child after listed
    rw [previous?_add inOrder inside]
    rcases childrenOf_add_cases inOrder inside listed with
      ⟨isNew, whole, _⟩ | ⟨earlier, known, _⟩
    · rw [if_pos isNew, whole]
    · rw [if_neg (Nat.ne_of_lt (lt_size_of_listed known))]
      exact inOrder.previous known
  next := by
    intro other before child after listed
    rcases childrenOf_add_cases inOrder inside listed with
      ⟨rfl, _, rfl⟩ | ⟨earlier, known, ⟨rfl, rfl⟩ | ⟨notParent, rfl⟩⟩
    · exact next?_add_new inOrder inside content
    · rw [next?_add inOrder inside content (lt_size_of_listed known), known]
      cases earlier with
      | nil =>
          rw [if_pos List.getLast?_concat]
          rfl
      | cons follower earlier =>
          have notLast : (before ++ child :: follower :: earlier).getLast? ≠ some child := by
            intro isLast
            rw [List.getLast?_append, List.getLast?_cons_cons, List.getLast?_cons,
              Option.some_or, ← List.getLast?_cons] at isLast
            have distinct := nodup_childrenOf document other
            rw [known, List.nodup_append, List.nodup_cons] at distinct
            exact distinct.2.1.1 (List.mem_of_getLast? isLast)
          rw [if_neg notLast, inOrder.next known]
          rfl
    · have notLast : (document.childrenOf parent).getLast? ≠ some child := by
        intro isLast
        have named := mem_childrenOf.mp (List.mem_of_getLast? isLast)
        rw [mem_childrenOf.mp (mem_of_listed known), Option.some.injEq] at named
        exact notParent named
      rw [next?_add inOrder inside content (lt_size_of_listed known), if_neg notLast]
      exact inOrder.next known
  later := by
    intro other child named
    rw [parent?_add inOrder inside] at named
    split at named
    · rename_i isNew
      cases named
      rw [isNew]
      exact inside
    · exact inOrder.later named
  placed := by
    intro node small
    rw [size_add] at small
    rw [parent?_add inOrder inside, content?_add inOrder inside]
    rcases Nat.lt_succ_iff_lt_or_eq.mp small with known | rfl
    · rw [if_neg (Nat.ne_of_lt known), if_neg (Nat.ne_of_lt known)]
      exact inOrder.placed node known
    · left
      rw [if_pos rfl]
      rfl

/-- A new node has no children. -/
theorem childrenOf_add_new (content : Content) :
    (document.add parent content).childrenOf document.size = [] := by
  rw [childrenOf_add inOrder inside, if_neg (Nat.ne_of_lt inside), inOrder.childrenOf_size]

theorem contents_add (content : Content) :
    (document.add parent content).contents = document.contents ++ [content] := by
  refine List.ext_getElem? fun node => ?_
  rw [getElem?_contents, content?_add inOrder inside]
  split
  · rename_i isNew
    rw [isNew, ← length_contents, List.getElem?_concat_length]
  · rename_i notNew
    rw [List.getElem?_append, getElem?_contents, length_contents]
    split
    · rfl
    · rename_i outside
      have behind : document.size < node :=
        Nat.lt_of_le_of_ne (Nat.le_of_not_lt outside) (Ne.symm notNew)
      have beyond : document.contents.length ≤ node := by
        rw [length_contents]
        exact Nat.le_of_lt behind
      have farBeyond : [content].length ≤ node - document.size :=
        Nat.sub_pos_of_lt behind
      rw [List.getElem?_eq_none farBeyond, ← getElem?_contents,
        List.getElem?_eq_none beyond]

end Add

end Document

end CompilePlayground.Html
