import CompilePlayground.Html.Token
import CompilePlayground.Html.Tree

namespace CompilePlayground.Html

/-!
# Documents under construction

While a page is read its elements move, so all nodes live in one array in the order in
which they were made, and each knows its parent, its neighbours and its outermost
children. The first node is the page itself. When all children of a node move at once,
only the outermost two of them learn of their new parent; the others keep the old one
in mind, and what is done to them later is done to the old parent's account.

`Document.tree` gives a node with all that is below it as a `Tree`.
-/

/-- The place of a node among all nodes ever made. -/
abbrev NodeId := Nat

/-- What a node stands for. -/
inductive Content where
  | page
  | element (element : Element)
  | text
  | comment
  deriving Repr, DecidableEq

/-- The element that is meant, if it is one. -/
def Content.element? : Content → Option Element
  | .element found => some found
  | _ => none

/-- A node with its links: what it is in, its neighbours there, and the first and the
last of what is in it. -/
structure Node where
  content : Content
  parent? : Option NodeId
  previous? : Option NodeId
  next? : Option NodeId
  ends? : Option (NodeId × NodeId)
  deriving Repr, DecidableEq

/-- A node that stands nowhere and holds nothing. -/
def Node.alone (content : Content) : Node :=
  ⟨content, none, none, none, none⟩

/-- Whether a node is an element with a property that stands somewhere. -/
def Node.isPlaced (wanted : Element → Bool) (node : Node) : Bool :=
  node.parent?.isSome && node.content.element?.any wanted

/-- All nodes, oldest first. -/
structure Document where
  nodes : Array Node
  deriving Repr, DecidableEq

namespace Document

/-- The node that stands for the page as a whole. -/
def root : NodeId := 0

/-- A document without elements. -/
def empty : Document :=
  ⟨#[.alone .page]⟩

/-- The count of nodes ever made. -/
def size (document : Document) : Nat :=
  document.nodes.size

/-- What a node is in. -/
def parent? (document : Document) (node : NodeId) : Option NodeId :=
  document.nodes[node]?.bind (·.parent?)

/-- The neighbour before a node. -/
def previous? (document : Document) (node : NodeId) : Option NodeId :=
  document.nodes[node]?.bind (·.previous?)

/-- The neighbour after a node. -/
def next? (document : Document) (node : NodeId) : Option NodeId :=
  document.nodes[node]?.bind (·.next?)

/-- The first and the last child of a node. -/
def ends? (document : Document) (node : NodeId) : Option (NodeId × NodeId) :=
  document.nodes[node]?.bind (·.ends?)

/-- The element that a node is, if it is one. -/
def element? (document : Document) (node : NodeId) : Option Element :=
  document.nodes[node]?.bind (·.content.element?)

/-- Whether a node is text. -/
def isText (document : Document) (node : NodeId) : Bool :=
  document.nodes[node]?.any (·.content == .text)

/-- Change one node. -/
def update (document : Document) (node : NodeId) (change : Node → Node) : Document :=
  ⟨document.nodes.modify node change⟩

/-- Change one node, if there is one. -/
def updateOpt (document : Document) (node? : Option NodeId) (change : Node → Node) : Document :=
  match node? with
  | none => document
  | some node => document.update node change

/-- Make a node. It stands nowhere yet. -/
def create (document : Document) (content : Content) : Document × NodeId :=
  (⟨document.nodes.push (.alone content)⟩, document.size)

/-- The outermost children that are left when a child with given neighbours goes. -/
def endsWithout
    (node : NodeId)
    (previous? next? : Option NodeId)
    (ends : NodeId × NodeId) :
    Option (NodeId × NodeId) :=
  let (first, last) := ends
  if first = last then none
  else if first = node then next?.map (·, last)
  else if last = node then previous?.map (first, ·)
  else some (first, last)

/-- Take a node out of what it is in. -/
def detach (document : Document) (node : NodeId) : Document :=
  match document.parent? node with
  | none => document
  | some parent =>
      let previous? := document.previous? node
      let next? := document.next? node
      let document := document.update node fun before =>
        { before with parent? := none, previous? := none, next? := none }
      let document := document.updateOpt previous? fun before => { before with next? }
      let document := document.updateOpt next? fun before => { before with previous? }
      document.update parent fun before =>
        { before with ends? := before.ends?.bind (endsWithout node previous? next?) }

/-- Put a node that stands nowhere behind all others in a parent. -/
def append (document : Document) (parent node : NodeId) : Document :=
  let last? := (document.ends? parent).map (·.2)
  let document := document.update node fun before =>
    { before with parent? := some parent, previous? := last? }
  let document := document.updateOpt last? fun before => { before with next? := some node }
  document.update parent fun before =>
    { before with ends? := some ((before.ends?.map (·.1)).getD node, node) }

/-- Put a node that stands nowhere just before another one that has a parent. -/
def insertBefore (document : Document) (sibling node : NodeId) : Document :=
  match document.parent? sibling with
  | none => document
  | some parent =>
      let previous? := document.previous? sibling
      let document := document.update node fun before =>
        { before with parent? := some parent, previous?, next? := some sibling }
      let document := document.updateOpt previous? fun before =>
        { before with next? := some node }
      let document := document.update sibling fun before =>
        { before with previous? := some node }
      document.update parent fun before =>
        { before with ends? := before.ends?.map fun (first, last) =>
            (if first = sibling then node else first, last) }

/-- Move all that is in one node into another one that is empty. Only the outermost
children learn of it. -/
def moveChildren (document : Document) (source target : NodeId) : Document :=
  match document.ends? source with
  | none => document
  | some (first, last) =>
      let document := document.update source fun before => { before with ends? := none }
      let document := document.update first fun before => { before with parent? := some target }
      let document := document.update last fun before => { before with parent? := some target }
      document.update target fun before => { before with ends? := some (first, last) }

/-- Put text behind all else in a parent; text that is there already takes it in. -/
def appendText (document : Document) (parent : NodeId) : Document :=
  if (document.ends? parent).any fun ends => document.isText ends.2 then
    document
  else
    let (document, node) := document.create .text
    document.append parent node

/-- Put text just before a node; text that is there already takes it in. -/
def insertTextBefore (document : Document) (sibling : NodeId) : Document :=
  if (document.previous? sibling).any document.isText then
    document
  else
    let (document, node) := document.create .text
    document.insertBefore sibling node

/-! ## Walking through a document -/

/-- A moment of a walk. -/
inductive Step where
  | enter (node : NodeId)
  | leave (node : NodeId)
  deriving Repr, DecidableEq

/-- The moment that follows in the walk around a node: first into what is in a node, then
to its neighbour, then out of its parent. -/
def nextStep? (document : Document) (top : NodeId) : Step → Option Step
  | .enter node =>
      match document.ends? node with
      | some (first, _) => some (.enter first)
      | none => some (.leave node)
  | .leave node =>
      if node = top then none
      else
        match document.next? node with
        | some next => some (.enter next)
        | none => (document.parent? node).map .leave

/-- The moments of the walk around a node from a given one on, at most as many as `fuel`
says, after those already met, which are held last one first. -/
def walkFrom
    (fuel : Nat)
    (document : Document)
    (top : NodeId)
    (met : List Step)
    (step : Step) :
    List Step :=
  match fuel with
  | 0 => met.reverse
  | fuel + 1 =>
      match document.nextStep? top step with
      | none => (step :: met).reverse
      | some next => walkFrom fuel document top (step :: met) next

/-- The walk around a node. Each node is entered once and left once. -/
def walk (document : Document) (top : NodeId) : List Step :=
  walkFrom (2 * document.size) document top [] (.enter top)

/-- An element that the walk is inside of, with the trees met in it, last one first. -/
structure Branch where
  node : NodeId
  element : Element
  trees : List Tree

/-- The tree of a branch that the walk has left. -/
def Branch.tree (branch : Branch) : Tree :=
  .node branch.element branch.trees.reverse

/-- Leave the branches inside of a node and the node itself. -/
def leaveBranches (node : NodeId) : List Branch → List Branch
  | [] => []
  | [last] => [last]
  | inner :: outer :: rest =>
      let outer := { outer with trees := inner.tree :: outer.trees }
      if inner.node = node then outer :: rest else leaveBranches node (outer :: rest)
termination_by branches => branches.length

/-- The branches after a moment of the walk. -/
def branchesAfter
    (document : Document)
    (branches : List Branch) :
    Step → List Branch
  | .enter node =>
      match document.element? node with
      | some element => ⟨node, element, []⟩ :: branches
      | none => branches
  | .leave node =>
      if branches.any (·.node = node) then leaveBranches node branches else branches

/-- A node with all that is below it. -/
def tree (document : Document) (node : NodeId) : Tree :=
  match ((document.walk node).foldl document.branchesAfter []) with
  | branch :: _ => branch.tree
  | [] => .node ⟨.html, "", []⟩ []

/-- The element that was made first, of those that stand somewhere and have a property. -/
def firstMade? (document : Document) (wanted : Element → Bool) : Option NodeId :=
  document.nodes.findIdx? (Node.isPlaced wanted)

end Document

end CompilePlayground.Html
