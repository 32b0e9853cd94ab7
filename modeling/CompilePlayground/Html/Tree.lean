import CompilePlayground.Html.Token

namespace CompilePlayground.Html

/-!
# Trees of elements

An element with what is below it. `Tree.descendants` lists all elements below the top one in
document order: an element comes before those inside it, and those before its next
sibling.
-/

/-- The language that an element's name belongs to. -/
inductive Space where
  | html
  | math
  | drawing
  deriving Repr, DecidableEq

/-- An element as its tag wrote it. -/
structure Element where
  space : Space
  name : String
  attributes : List Attribute
  deriving Repr, DecidableEq

/-- The value of an attribute of an element. -/
def Element.value? (element : Element) (name : String) : Option String :=
  valueOf? name element.attributes

/-- An element with the elements in it. -/
inductive Tree where
  | node (element : Element) (children : List Tree)
  deriving Repr

namespace Tree

/-- The element at the top. -/
def element : Tree → Element
  | .node element _ => element

/-- What is directly below the top. -/
def children : Tree → List Tree
  | .node _ children => children

mutual

/-- The tree itself and every tree below it, in document order. -/
def subtrees : Tree → List Tree
  | .node element children => .node element children :: subtreesOfAll children

/-- Every tree of a list and below one of them, in document order. -/
def subtreesOfAll : List Tree → List Tree
  | [] => []
  | tree :: trees => tree.subtrees ++ subtreesOfAll trees

end

/-- Every tree below the top, in document order. -/
def descendants (tree : Tree) : List Tree :=
  subtreesOfAll tree.children

end Tree

end CompilePlayground.Html
