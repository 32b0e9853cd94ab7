import CompilePlayground.Failure
import CompilePlayground.Html.Page
import CompilePlayground.Message

namespace CompilePlayground

open Html

/-!
# The members of a category

A category's page lists its members in a section of its own, one item for each. The
first anchor of an item is the link to the member. `Category.links` finds them in the
section, `Category.read` in the text of a page.
-/

namespace Category

/-- Whether an element is the section that lists the members. -/
def isSection (element : Element) : Bool :=
  element.name == "div" && element.value? "id" == some "mw-pages"

/-- Whether an element is an item of a list. -/
def isItem (element : Element) : Bool :=
  element.name == "li"

/-- Whether an element is an anchor. -/
def isAnchor (element : Element) : Bool :=
  element.name == "a"

/-- The first anchor below an item. -/
def anchor? (item : Tree) : Option Element :=
  (item.descendants.map (·.element)).find? isAnchor

/-- The anchors of the items below a section, in document order. -/
def anchors (area : Tree) : List Element :=
  (area.descendants.filter (isItem ·.element)).filterMap anchor?

/-- The link that an anchor gives. -/
def link (anchor : Element) : LinkItem :=
  ⟨(anchor.value? "title").getD "", anchor.value? "href"⟩

/-- The links of the items below a section. -/
def links (area : Tree) : List LinkItem :=
  (anchors area).map link

/-- The section of a document that lists the members. -/
def section? (document : Document) : Option Tree :=
  (document.firstMade? isSection).map document.tree

/-- The links that a document lists. -/
def ofDocument (document : Document) : Except CategoryFailure (List LinkItem) :=
  match section? document with
  | none => .error .missingRoot
  | some area =>
      match links area with
      | [] => .error .noLinks
      | found => .ok found

/-- The links that a page lists. -/
def read (page : String) : Except CategoryFailure (List LinkItem) :=
  ofDocument (Page.read page)

end Category

end CompilePlayground
