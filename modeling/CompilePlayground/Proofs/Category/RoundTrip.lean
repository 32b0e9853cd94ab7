import CompilePlayground.Proofs.Category.Rendered
import CompilePlayground.Proofs.Html.Walking

namespace CompilePlayground.Category

open Html

/-!
# A category page that is rendered is read back

The links of a rendered page are those of the first section with the identifier that lists the
members, in their order. What other sections list does not count, and a page without such a section
or without a link in it is refused.
-/

/-! ## The section that is found -/

/-- The block of a section as a tree. -/
def Listing.tree (listing : Listing) : Tree :=
  .node ⟨.html, "div", listing.attributes⟩ listing.forest.trees

/-- The block of a section is the one that is looked for exactly if its identifier is the meant
one. -/
theorem isSection_listing (listing : Listing) :
    isSection ⟨.html, "div", listing.attributes⟩ = (listing.id == "mw-pages") := by
  simp [isSection, Element.value?, valueOf?, Listing.attributes]

/-- No element in a text is a section. -/
theorem textForest_contents_not_section (text : List Char) :
    ∀ content ∈ (textForest text).contents, content.element?.any isSection = false := by
  cases text with
  | nil =>
      intro content member
      cases member
  | cons character text =>
      intro content member
      cases List.mem_singleton.mp member
      rfl

theorem itemForest_contents_not_section (entries : List Entry) :
    ∀ content ∈ (itemForest entries).contents, content.element?.any isSection = false := by
  induction entries with
  | nil =>
      intro content member
      cases member
  | cons entry entries inductionHypothesis =>
      intro content member
      rcases List.mem_cons.mp member with rfl | member
      · rfl
      · rcases List.mem_append.mp member with inEntry | later
        · cases entry with
          | plain text =>
              exact textForest_contents_not_section _ content inEntry
          | link title? href? =>
              rcases List.mem_cons.mp inEntry with rfl | inAnchor
              · rfl
              · rw [Forest.contents, List.append_nil] at inAnchor
                exact textForest_contents_not_section _ content inAnchor
        · exact inductionHypothesis content later

/-- No element inside a section is a section. -/
theorem listingForest_contents_not_section (listing : Listing) :
    ∀ content ∈ listing.forest.contents, content.element?.any isSection = false := by
  intro content member
  rcases List.mem_cons.mp member with rfl | member
  · decide
  · rw [Forest.contents, List.append_nil] at member
    exact itemForest_contents_not_section _ content member

/-- The first section of a page that lists the members is found with all that it holds. -/
theorem findIdx?_pageForest
    {document : Document}
    {listings : List Listing}
    {first : Nat}
    (inOrder : document.InOrder)
    (holds : document.Holds first (pageForest listings))
    (fits : first + (pageForest listings).size ≤ document.size) :
    ((pageForest listings).contents.findIdx? (·.element?.any isSection)).map
        (fun place => document.tree (first + place)) =
      (listings.find? (·.id == "mw-pages")).map Listing.tree := by
  induction listings generalizing first with
  | nil =>
      rfl
  | cons listing listings inductionHypothesis =>
      rw [pageForest_cons, Forest.size_node] at fits
      have inside : listing.forest.contents.findIdx? (·.element?.any isSection) = none :=
        List.findIdx?_eq_none_iff.mpr (listingForest_contents_not_section listing)
      rw [pageForest_cons, Forest.contents, List.findIdx?_cons, List.find?_cons]
      have asked : (Content.element ⟨.html, "div", listing.attributes⟩).element?.any isSection =
          (listing.id == "mw-pages") :=
        isSection_listing listing
      rw [asked]
      cases listing.id == "mw-pages" with
      | true =>
          have tree := Document.tree_eq inOrder holds (by omega)
          simp only [if_true, Option.map_some]
          rw [Nat.add_zero, tree, Listing.tree]
      | false =>
          have later := inductionHypothesis holds.2.2.2 (by omega)
          rw [List.findIdx?_append, inside, Option.none_or, if_neg Bool.false_ne_true,
            Option.map_map, Option.map_map, ← later]
          refine Option.map_congr fun place _ => ?_
          have same : first + (place + listing.forest.size + 1) =
              first + 1 + listing.forest.size + place := by
            omega
          exact congrArg document.tree same

/-! ## The links that are found -/

/-- The anchor of an entry, if it has one. -/
def Entry.anchor? : Entry → Option Element
  | plain _ => none
  | link title? href? => some ⟨.html, "a", linkAttributes title? href?⟩

theorem trees_textForest (text : List Char) : (textForest text).trees = [] := by
  cases text with
  | nil =>
      rfl
  | cons character text =>
      rfl

/-- An entry holds no item but at most its anchor. -/
theorem subtreesOfAll_entry (entry : Entry) :
    Tree.subtreesOfAll entry.forest.trees =
      (entry.anchor?.map fun anchor => Html.Tree.node anchor []).toList := by
  cases entry with
  | plain text =>
      rw [Entry.forest, trees_textForest]
      rfl
  | link title? href? =>
      simp [Entry.forest, Forest.trees, trees_textForest, Content.element?, Tree.subtreesOfAll,
        Tree.subtrees, Entry.anchor?]

/-- The first anchor below the item of an entry is the one of the entry. -/
theorem anchor?_entry (entry : Entry) :
    anchor? (.node ⟨.html, "li", []⟩ entry.forest.trees) = entry.anchor? := by
  rw [anchor?, Tree.descendants, Tree.children, subtreesOfAll_entry]
  cases entry with
  | plain text =>
      rfl
  | link title? href? =>
      rfl

/-- The anchors below the items of a list are those of its entries. -/
theorem anchors_items (entries : List Entry) :
    ((Tree.subtreesOfAll (itemForest entries).trees).filter (isItem ·.element)).filterMap anchor? =
      entries.filterMap Entry.anchor? := by
  induction entries with
  | nil =>
      rfl
  | cons entry entries inductionHypothesis =>
      have noItem : (Tree.subtreesOfAll entry.forest.trees).filter (isItem ·.element) = [] := by
        rw [subtreesOfAll_entry]
        cases entry with
        | plain text =>
            rfl
        | link title? href? =>
            rfl
      have isListItem : isItem (Html.Tree.node ⟨.html, "li", []⟩ entry.forest.trees).element = true :=
        rfl
      have trees : (itemForest (entry :: entries)).trees =
          .node ⟨.html, "li", []⟩ entry.forest.trees :: (itemForest entries).trees := rfl
      rw [trees, Tree.subtreesOfAll, Tree.subtrees, List.cons_append,
        List.filter_cons, if_pos isListItem, List.filter_append, noItem, List.nil_append,
        List.filterMap_cons, List.filterMap_cons, anchor?_entry, inductionHypothesis]

/-- The link of an anchor is the one that its entry was rendered from. -/
theorem link_anchor? (entry : Entry) :
    entry.anchor?.map link = entry.linkItem? := by
  cases entry with
  | plain text =>
      rfl
  | link title? href? =>
      cases title? <;> cases href? <;> rfl

/-- The links of the block of a section are those that the section lists. -/
theorem links_tree (listing : Listing) : links listing.tree = listing.links := by
  have descendants : listing.tree.descendants =
      .node ⟨.html, "ul", []⟩ (itemForest listing.entries).trees ::
        (Tree.subtreesOfAll (itemForest listing.entries).trees ++ []) := rfl
  have notItem : ¬isItem (Html.Tree.node ⟨.html, "ul", []⟩
      (itemForest listing.entries).trees).element = true := Bool.false_ne_true
  rw [links, anchors, descendants, List.append_nil, List.filter_cons, if_neg notItem,
    anchors_items, List.map_filterMap]
  simp only [link_anchor?]
  rfl

/-- The first section of a rendered page that lists the members is the one that is read. -/
theorem section?_renderPage
    {listing : Listing}
    {listings : List Listing}
    (clean : ∀ other ∈ listing :: listings, other.isClean = true) :
    Category.section? (Page.read (renderPage (listing :: listings))) =
      ((listing :: listings).find? (·.id == "mw-pages")).map Listing.tree := by
  obtain ⟨grown, holds⟩ := Document.grown_grow Document.framed_inOrder (by decide : 3 < _)
    (pageForest (listing :: listings))
  have size := grown.size_eq
  rw [Document.framed_size] at holds size
  have around : Document.framed.contents.findIdx? (·.element?.any isSection) = none := by
    decide
  rw [read_renderPage clean, section?, grown.inOrder.firstMade?_eq, grown.contents_eq,
    List.findIdx?_append, around, Option.none_or, Option.map_map, Document.length_contents,
    Document.framed_size, ← findIdx?_pageForest grown.inOrder holds (Nat.le_of_eq size.symm)]
  refine Option.map_congr fun place _ => ?_
  exact congrArg (Document.tree _) (Nat.add_comm place 4)

/-- A rendered page is read as the links of its first section that lists the members. -/
theorem read_renderPage_eq
    {listing : Listing}
    {listings : List Listing}
    (clean : ∀ other ∈ listing :: listings, other.isClean = true) :
    read (renderPage (listing :: listings)) =
      match (listing :: listings).find? (·.id == "mw-pages") with
      | none => .error .missingRoot
      | some found =>
          if found.links = [] then .error .noLinks else .ok found.links := by
  rw [read, ofDocument, section?_renderPage clean]
  cases (listing :: listings).find? (·.id == "mw-pages") with
  | none =>
      rfl
  | some found =>
      simp only [Option.map_some, links_tree]
      cases found.links with
      | nil =>
          rfl
      | cons first rest =>
          rfl

/-- The links of the section that lists the members are read back whatever the sections around it
list, and a page without such a section is refused. -/
theorem read_render
    {before listed after : Listing}
    (cleanBefore : before.isClean = true)
    (cleanListed : listed.isClean = true)
    (cleanAfter : after.isClean = true)
    (other : before.id ≠ "mw-pages")
    (meant : listed.id = "mw-pages") :
    read (before.render ++ listed.render ++ after.render) =
        (if listed.links = [] then .error .noLinks else .ok listed.links) ∧
      read before.render = .error .missingRoot := by
  have skipped : (before.id == "mw-pages") = false := by
    rw [beq_eq_false_iff_ne]
    exact other
  have found : (listed.id == "mw-pages") = true := by
    rw [beq_iff_eq]
    exact meant
  have whole : renderPage [before, listed, after] =
      before.render ++ listed.render ++ after.render := by
    simp [renderPage, String.append_assoc]
  have alone : renderPage [before] = before.render := by
    simp [renderPage]
  constructor
  · rw [← whole, read_renderPage_eq (by simp [cleanBefore, cleanListed, cleanAfter])]
    simp only [List.find?_cons, skipped, found]
  · rw [← alone, read_renderPage_eq (by simp [cleanBefore])]
    simp only [List.find?_cons, List.find?_nil, skipped]

/-- A section of subcategories is skipped, and of two sections of members the first one counts. -/
theorem read_render_of_members :
    read
          (Listing.render ⟨"mw-subcategories", [.link (some "R&D") (some "/wiki/R&D")]⟩ ++
            Listing.render ⟨"mw-pages", [.link (some "\"x < y\"") (some "/w?a=1&lt=2"),
              .plain "no <a> here", .link none none]⟩ ++
            Listing.render ⟨"mw-pages", [.link (some "last") none]⟩) =
        .ok [⟨"\"x < y\"", some "/w?a=1&lt=2"⟩, ⟨"", none⟩] ∧
      read (Listing.render ⟨"mw-subcategories", [.link (some "R&D") (some "/wiki/R&D")]⟩) =
        .error .missingRoot :=
  read_render (by decide) (by decide) (by decide) (by decide) rfl

end CompilePlayground.Category
