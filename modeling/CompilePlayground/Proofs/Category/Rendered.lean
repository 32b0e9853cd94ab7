import CompilePlayground.Category
import CompilePlayground.Proofs.Html.Building

namespace CompilePlayground.Category

open Html

/-!
# Category pages that are rendered

A page lists entries in sections, each entry a plain text or a link. Rendering escapes all texts.
Reading a rendered section builds a block with a list whose items hold an anchor for each link and
a text where there is any.
-/

/-- An entry of a list: a text, or a link that may have a title and a target. -/
inductive Entry where
  | plain (text : String)
  | link (title? href? : Option String)
  deriving Repr, DecidableEq

/-- What is written for a text. -/
def escaped (text : String) : String :=
  String.ofList (escape text.toList)

/-- What is written for an attribute, if there is one. -/
def renderAttribute (name : String) (value? : Option String) : String :=
  match value? with
  | none => ""
  | some value => " " ++ name ++ "=\"" ++ escaped value ++ "\""

/-- What is written for an entry. -/
def Entry.render : Entry → String
  | plain text => "<li>" ++ escaped text ++ "</li>"
  | link title? href? =>
      "<li><a" ++ renderAttribute "href" href? ++ renderAttribute "title" title? ++ ">" ++
        escaped (title?.getD "") ++ "</a></li>"

/-- A section that lists entries. -/
structure Listing where
  id : String
  entries : List Entry
  deriving Repr, DecidableEq

/-- What is written for a section. -/
def Listing.render (listing : Listing) : String :=
  "<div id=\"" ++ escaped listing.id ++ "\"><ul>" ++
    String.join (listing.entries.map Entry.render) ++ "</ul></div>"

/-- The link that an entry is, if it is one. -/
def Entry.linkItem? : Entry → Option LinkItem
  | plain _ => none
  | link title? href? => some ⟨title?.getD "", href?⟩

/-- Whether a text holds no character that a page replaces. -/
def isClean (text : String) : Bool :=
  !text.toList.contains '\x00' && !text.toList.contains '\r'

/-- Whether all texts of an entry are clean. -/
def Entry.isClean : Entry → Bool
  | plain text => Category.isClean text
  | link title? href? => title?.all Category.isClean && href?.all Category.isClean

/-- Whether all texts of a section are clean. -/
def Listing.isClean (listing : Listing) : Bool :=
  Category.isClean listing.id && listing.entries.all Entry.isClean

/-- The links that a section lists. -/
def Listing.links (listing : Listing) : List LinkItem :=
  listing.entries.filterMap Entry.linkItem?

/-! ## What is written, tag by tag -/

/-- The attributes of the anchor of a link. -/
def linkAttributes (title? href? : Option String) : List Attribute :=
  (href?.map (⟨"href", ·⟩)).toList ++ (title?.map (⟨"title", ·⟩)).toList

/-- What is written between the tags of an item. -/
def Entry.written : Entry → List Char
  | plain text => escape text.toList
  | link title? href? =>
      startTag "a" (linkAttributes title? href?) ++
        (escape (title?.getD "").toList ++ endTag "a")

/-- What is written for the items of a list. -/
def writtenItems (entries : List Entry) : List Char :=
  entries.flatMap fun entry => startTag "li" [] ++ (entry.written ++ endTag "li")

/-- The attributes of the block of a section. -/
def Listing.attributes (listing : Listing) : List Attribute :=
  [⟨"id", listing.id⟩]

/-- What is written for a section. -/
def Listing.written (listing : Listing) : List Char :=
  startTag "div" listing.attributes ++
    ((startTag "ul" [] ++ (writtenItems listing.entries ++ endTag "ul")) ++ endTag "div")

theorem toList_renderAttribute (name : String) (value? : Option String) :
    (renderAttribute name value?).toList =
      (value?.map (Attribute.mk name)).toList.flatMap Attribute.written := by
  cases value? with
  | none =>
      rfl
  | some value =>
      simp [renderAttribute, Attribute.written, escaped]

theorem Entry.toList_render (entry : Entry) :
    entry.render.toList = startTag "li" [] ++ (entry.written ++ endTag "li") := by
  cases entry with
  | plain text =>
      simp [Entry.render, Entry.written, startTag, endTag, escaped]
  | link title? href? =>
      simp [Entry.render, Entry.written, startTag, endTag, escaped, toList_renderAttribute,
        linkAttributes]

theorem Listing.toList_render (listing : Listing) :
    listing.render.toList = listing.written := by
  have items : (String.join (listing.entries.map Entry.render)).toList =
      writtenItems listing.entries := by
    simp only [String.toList_join, List.flatMap_map, Entry.toList_render, writtenItems]
  simp [Listing.render, Listing.written, Listing.attributes, startTag, endTag, escaped, items,
    Attribute.written]

example : Listing.render ⟨"mw-pages", [.link (some "R&D") (some "/wiki/R&D"), .plain "x < y"]⟩ =
    "<div id=\"mw-pages\"><ul><li><a href=\"/wiki/R&amp;D\" title=\"R&amp;D\">R&amp;D</a></li>" ++
      "<li>x &lt; y</li></ul></div>" := by
  decide

/-! ## Clean texts -/

theorem isClean_iff {text : String} :
    isClean text = true ↔ '\x00' ∉ text.toList ∧ '\r' ∉ text.toList := by
  simp [isClean]

/-- The text that an anchor shows is as clean as its title. -/
theorem isClean_getD
    {value? : Option String}
    (clean : value?.all isClean = true) :
    isClean (value?.getD "") = true := by
  cases value? with
  | none =>
      decide
  | some value =>
      exact clean

theorem mem_linkAttributes
    {title? href? : Option String}
    {given : Attribute}
    (member : given ∈ linkAttributes title? href?) :
    (given.name = "href" ∧ href? = some given.value) ∨
      (given.name = "title" ∧ title? = some given.value) := by
  rcases List.mem_append.mp member with isHref | isTitle
  · obtain ⟨href, isSome, rfl⟩ := Option.map_eq_some_iff.mp (Option.mem_toList.mp isHref)
    exact .inl ⟨rfl, isSome⟩
  · obtain ⟨title, isSome, rfl⟩ := Option.map_eq_some_iff.mp (Option.mem_toList.mp isTitle)
    exact .inr ⟨rfl, isSome⟩

theorem isClean_of_mem_linkAttributes
    {title? href? : Option String}
    (clean : (Entry.link title? href?).isClean = true) :
    ∀ given ∈ linkAttributes title? href?, isClean given.value = true := by
  rw [Entry.isClean, Bool.and_eq_true] at clean
  intro given member
  rcases mem_linkAttributes member with ⟨_, isHref⟩ | ⟨_, isTitle⟩
  · rw [isHref] at clean
    exact clean.2
  · rw [isTitle] at clean
    exact clean.1

theorem areWritable_linkAttributes
    {title? href? : Option String}
    (clean : (Entry.link title? href?).isClean = true) :
    AreWritable (linkAttributes title? href?) where
  words := by
    intro given member
    rcases mem_linkAttributes member with ⟨isHref, _⟩ | ⟨isTitle, _⟩
    · rw [isHref]
      decide
    · rw [isTitle]
      decide
  distinct := by
    cases title? <;> cases href? <;> simp [linkAttributes]
  noNul := fun given member => (isClean_iff.mp (isClean_of_mem_linkAttributes clean given member)).1

theorem Listing.isClean_id {listing : Listing} (clean : listing.isClean = true) :
    Category.isClean listing.id = true := by
  rw [Listing.isClean, Bool.and_eq_true] at clean
  exact clean.1

theorem Listing.isClean_entries {listing : Listing} (clean : listing.isClean = true) :
    ∀ entry ∈ listing.entries, entry.isClean = true := by
  rw [Listing.isClean, Bool.and_eq_true, List.all_eq_true] at clean
  exact clean.2

theorem Listing.areWritable_attributes {listing : Listing} (clean : listing.isClean = true) :
    AreWritable listing.attributes where
  words := by
    intro given member
    cases List.mem_singleton.mp member
    exact (by decide : isWord "id" = true)
  distinct := by
    simp [Listing.attributes]
  noNul := by
    intro given member
    cases List.mem_singleton.mp member
    exact (isClean_iff.mp (Listing.isClean_id clean)).1

theorem Entry.return_not_mem_written
    {entry : Entry}
    (clean : entry.isClean = true) :
    '\r' ∉ entry.written := by
  cases entry with
  | plain text =>
      exact not_mem_escape (isClean_iff.mp clean).2 (by decide)
  | link title? href? =>
      have opening := return_not_mem_startTag (by decide : isWord "a" = true)
        (areWritable_linkAttributes clean) fun given member =>
          (isClean_iff.mp (isClean_of_mem_linkAttributes clean given member)).2
      have shown : Category.isClean (title?.getD "") = true := by
        rw [Entry.isClean, Bool.and_eq_true] at clean
        exact isClean_getD clean.1
      have text : '\r' ∉ escape (title?.getD "").toList :=
        not_mem_escape (isClean_iff.mp shown).2 (by decide)
      have closing : '\r' ∉ endTag "a" := by
        decide
      simp [Entry.written, opening, text, closing]

/-- A clean section is written without a carriage return. -/
theorem Listing.return_not_mem_written
    {listing : Listing}
    (clean : listing.isClean = true) :
    '\r' ∉ listing.written := by
  have noReturnId : ∀ given ∈ listing.attributes, '\r' ∉ given.value.toList := by
    intro given member
    cases List.mem_singleton.mp member
    exact (isClean_iff.mp (Listing.isClean_id clean)).2
  have opening := return_not_mem_startTag (by decide : isWord "div" = true)
    (Listing.areWritable_attributes clean) noReturnId
  have items : '\r' ∉ writtenItems listing.entries := by
    intro member
    obtain ⟨entry, isEntry, member⟩ := List.mem_flatMap.mp member
    have inside := Entry.return_not_mem_written (Listing.isClean_entries clean entry isEntry)
    have around : '\r' ∉ startTag "li" [] ∧ '\r' ∉ endTag "li" := by
      decide
    simp [inside, around] at member
  have around : '\r' ∉ startTag "ul" [] ∧ '\r' ∉ endTag "ul" ∧ '\r' ∉ endTag "div" := by
    decide
  simp [Listing.written, opening, items, around]

/-! ## What is built -/

/-- What the item of an entry holds. -/
def Entry.forest : Entry → Forest
  | plain text => textForest text.toList
  | link title? href? =>
      .node (.element ⟨.html, "a", linkAttributes title? href?⟩)
        (textForest (title?.getD "").toList) .empty

/-- The items of a list. -/
def itemForest (entries : List Entry) : Forest :=
  .row (fun _ => ⟨.html, "li", []⟩) Entry.forest entries

/-- What the block of a section holds. -/
def Listing.forest (listing : Listing) : Forest :=
  .node (.element ⟨.html, "ul", []⟩) (itemForest listing.entries) .empty

/-- The blocks of the sections of a page. -/
def pageForest (listings : List Listing) : Forest :=
  .row (fun listing => ⟨.html, "div", listing.attributes⟩) Listing.forest listings

theorem pageForest_cons (listing : Listing) (listings : List Listing) :
    pageForest (listing :: listings) =
      .node (.element ⟨.html, "div", listing.attributes⟩) listing.forest (pageForest listings) :=
  rfl

/-- What is open in the block of a section. -/
def blockStack (block : NodeId) : List OpenElement :=
  ⟨block, .html, "div"⟩ :: bodyStack

/-- What is open in the list of a section. -/
def listStack (block list : NodeId) : List OpenElement :=
  ⟨list, .html, "ul"⟩ :: blockStack block

theorem isPlain_bodyStack : IsPlain bodyStack := by
  decide

theorem isPlain_blockStack (block : NodeId) : IsPlain (blockStack block) :=
  isPlain_bodyStack.cons block (by decide)

theorem isPlain_listStack (block list : NodeId) : IsPlain (listStack block list) :=
  (isPlain_blockStack block).cons list (by decide)

section Building

variable {document : Document}

/-- Reading an entry fills its item. -/
theorem yields_entry
    (block list item : NodeId)
    {entry : Entry}
    (clean : entry.isClean = true)
    (inOrder : document.InOrder)
    (inside : item < document.size)
    (childless : document.childrenOf item = []) :
    Yields ⟨document, ⟨item, .html, "li"⟩ :: listStack block list, []⟩ entry.written
      ⟨document.grow item entry.forest, ⟨item, .html, "li"⟩ :: listStack block list, []⟩ := by
  have plain : IsPlain (⟨item, .html, "li"⟩ :: listStack block list) :=
    (isPlain_listStack block list).cons item (by decide)
  cases entry with
  | plain text =>
      exact yields_text inOrder inside childless (isClean_iff.mp clean).1 plain (by simp)
  | link title? href? =>
      have writable := areWritable_linkAttributes clean
      have shown : isClean (title?.getD "") = true := by
        rw [Entry.isClean, Bool.and_eq_true] at clean
        exact isClean_getD clean.1
      refine Yields.element (yields_anchor writable plain) ?_ fun document' =>
        yields_endAnchor plain
      refine yields_text (inOrder.add inside _) (Document.size_lt_size_add _ _ _)
        (Document.childrenOf_add_new inOrder inside _) (isClean_iff.mp shown).1
        (plain.cons _ (by decide)) ?_
      intro entry member
      cases List.mem_singleton.mp member
      simp [FormattingEntry.isClosed]

/-- Reading the items of a list puts them into the list. -/
theorem yields_items
    (block list : NodeId)
    {entries : List Entry}
    (clean : ∀ entry ∈ entries, entry.isClean = true)
    (inOrder : document.InOrder)
    (inside : list < document.size) :
    Yields ⟨document, listStack block list, []⟩ (writtenItems entries)
      ⟨document.grow list (itemForest entries), listStack block list, []⟩ := by
  have plain := isPlain_listStack block list
  refine Yields.row (fun entry member document inOrder inside => ?_) inOrder inside
  have filled := yields_entry block list document.size (clean entry member)
    (inOrder.add inside (.element ⟨.html, "li", []⟩)) (Document.size_lt_size_add _ _ _)
    (Document.childrenOf_add_new inOrder inside _)
  exact Yields.element (yields_item plain rfl) filled fun document' => yields_endItem plain

/-- Reading a section puts its block into the body. -/
theorem yields_listing
    {listing : Listing}
    (clean : listing.isClean = true)
    (inOrder : document.InOrder)
    (inside : 3 < document.size) :
    Yields ⟨document, bodyStack, []⟩ listing.written
      ⟨document.grow 3
        (.node (.element ⟨.html, "div", listing.attributes⟩) listing.forest .empty),
        bodyStack, []⟩ := by
  have blockInside := Document.size_lt_size_add document 3
    (.element ⟨.html, "div", listing.attributes⟩)
  have blockInOrder := inOrder.add inside (.element ⟨.html, "div", listing.attributes⟩)
  have items := yields_items document.size
    (document.add 3 (.element ⟨.html, "div", listing.attributes⟩)).size
    (Listing.isClean_entries clean)
    (blockInOrder.add blockInside (.element ⟨.html, "ul", []⟩)) (Document.size_lt_size_add _ _ _)
  have blockPlain := isPlain_blockStack document.size
  have list := Yields.element
    (yields_block (by decide) (by decide) areWritable_nil blockPlain) items
    fun document' => yields_endBlock (by decide) (fun _ => rfl) (by decide) (by decide) blockPlain
  exact Yields.element
    (yields_block (by decide) (by decide) (Listing.areWritable_attributes clean) isPlain_bodyStack)
    list fun document' =>
      yields_endBlock (by decide) (fun _ => rfl) (by decide) (by decide) isPlain_bodyStack

/-- Reading the sections of a page puts their blocks into the body. -/
theorem yields_page
    {listings : List Listing}
    (clean : ∀ listing ∈ listings, listing.isClean = true)
    (inOrder : document.InOrder)
    (inside : 3 < document.size) :
    Yields ⟨document, bodyStack, []⟩ (listings.flatMap Listing.written)
      ⟨document.grow 3 (pageForest listings), bodyStack, []⟩ :=
  Yields.row (fun listing member _ inOrder inside => yields_listing (clean listing member)
    inOrder inside) inOrder inside

end Building

/-- What is written for a page of sections. -/
def renderPage (listings : List Listing) : String :=
  String.join (listings.map Listing.render)

/-- Reading a page builds the blocks of its sections. -/
theorem read_renderPage
    {listing : Listing}
    {listings : List Listing}
    (clean : ∀ other ∈ listing :: listings, other.isClean = true) :
    Page.read (renderPage (listing :: listings)) =
      Document.framed.grow 3 (pageForest (listing :: listings)) := by
  have whole : (listing :: listings).flatMap Listing.written =
      startTag "div" listing.attributes ++
        (((startTag "ul" [] ++ (writtenItems listing.entries ++ endTag "ul")) ++ endTag "div") ++
          listings.flatMap Listing.written) := by
    rw [List.flatMap_cons, Listing.written, List.append_assoc]
  have rendered : renderPage (listing :: listings) =
      String.ofList ((listing :: listings).flatMap Listing.written) := by
    rw [← String.toList_inj, String.toList_ofList, renderPage, String.toList_join]
    simp only [List.flatMap_map, Listing.toList_render]
  have noReturn : '\r' ∉ (listing :: listings).flatMap Listing.written := by
    intro member
    obtain ⟨other, isListing, member⟩ := List.mem_flatMap.mp member
    exact Listing.return_not_mem_written (clean other isListing) member
  have framed := yields_page clean Document.framed_inOrder (by decide)
  rw [whole] at noReturn framed rendered
  rw [rendered]
  exact Page.read_eq (Listing.areWritable_attributes (clean listing List.mem_cons_self)) noReturn
    framed

end CompilePlayground.Category
