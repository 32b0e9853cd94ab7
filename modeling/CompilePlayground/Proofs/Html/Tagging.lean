import CompilePlayground.Proofs.Html.Escaping

namespace CompilePlayground.Html

/-!
# Tags are read back

A tag whose names are words in small letters, and whose values are escaped and stand between
quotation marks, is read as the tag that it was written for.
-/

/-- Whether a name is written in small letters alone. -/
def isWord (name : String) : Bool :=
  !name.toList.isEmpty && name.toList.all Char.isLower

/-- What is written for an attribute. -/
def Attribute.written (given : Attribute) : List Char :=
  ' ' :: given.name.toList ++ '=' :: '"' :: escape given.value.toList ++ ['"']

/-- What is written for a start tag. -/
def startTag (name : String) (attributes : List Attribute) : List Char :=
  '<' :: name.toList ++ attributes.flatMap Attribute.written ++ ['>']

/-- What is written for an end tag. -/
def endTag (name : String) : List Char :=
  '<' :: '/' :: name.toList ++ ['>']

/-- Attributes that can be written: their names are words of which none comes twice, and no value
holds a character that is replaced. -/
structure AreWritable (attributes : List Attribute) : Prop where
  words : ∀ given ∈ attributes, isWord given.name = true
  distinct : (attributes.map (·.name)).Nodup
  noNul : ∀ given ∈ attributes, '\x00' ∉ given.value.toList

theorem areWritable_nil : AreWritable [] where
  words := by simp
  distinct := by simp
  noNul := by simp

theorem exists_cons_of_isWord
    {name : String}
    (word : isWord name = true) :
    ∃ first more, name.toList = first :: more ∧ first.isLower = true ∧
      ∀ letter ∈ more, letter.isLower = true := by
  rw [isWord, Bool.and_eq_true, List.all_eq_true] at word
  cases spelled : name.toList with
  | nil =>
      rw [spelled] at word
      cases word.1
  | cons first more =>
      rw [spelled] at word
      exact ⟨first, more, rfl, word.2 first List.mem_cons_self,
        fun letter member => word.2 letter (List.mem_cons_of_mem first member)⟩

/-- A small letter differs from each character that is not one. -/
theorem ne_of_isLower
    {letter other : Char}
    (small : letter.isLower = true)
    (notSmall : other.isLower = false) :
    letter ≠ other := by
  rintro rfl
  rw [small] at notSmall
  cases notSmall

theorem isSpace_of_isLower
    {letter : Char}
    (small : letter.isLower = true) :
    isSpace letter = false := by
  simp only [isSpace, Bool.or_eq_false_iff, beq_eq_false_iff_ne]
  refine ⟨⟨⟨⟨?_, ?_⟩, ?_⟩, ?_⟩, ?_⟩
  all_goals
    exact ne_of_isLower small (by decide)

/-- A small letter is kept as it is. -/
theorem toLower_replaceNul_of_isLower
    {letter : Char}
    (small : letter.isLower = true) :
    (replaceNul letter).toLower = letter := by
  have notNul : letter ≠ '\x00' := ne_of_isLower small (by decide)
  rw [replaceNul, if_neg (by simpa using notNul)]
  have least : 'a'.val ≤ letter.val := by
    have bounds :
        letter.isLower = (decide (letter.val ≥ 'a'.val) && decide (letter.val ≤ 'z'.val)) :=
      rfl
    rw [bounds, Bool.and_eq_true, decide_eq_true_eq] at small
    exact small.1
  delta Char.toLower
  rw [dif_neg]
  rintro ⟨_, notAbove⟩
  exact absurd (UInt32.le_trans least notAbove) (by decide)

theorem isAlpha_of_isLower
    {letter : Char}
    (small : letter.isLower = true) :
    letter.isAlpha = true := by
  have parts : letter.isAlpha = (letter.isUpper || letter.isLower) := rfl
  rw [parts, small, Bool.or_true]

/-- A tag holds no carriage return that its values do not hold. -/
theorem return_not_mem_startTag
    {name : String}
    {attributes : List Attribute}
    (word : isWord name = true)
    (writable : AreWritable attributes)
    (noReturn : ∀ given ∈ attributes, '\r' ∉ given.value.toList) :
    '\r' ∉ startTag name attributes := by
  have notInWord : ∀ {spelled : String}, isWord spelled = true → '\r' ∉ spelled.toList := by
    intro spelled isSpelled member
    rw [isWord, Bool.and_eq_true, List.all_eq_true] at isSpelled
    exact absurd (isSpelled.2 _ member) (by decide)
  have notWritten : '\r' ∉ attributes.flatMap Attribute.written := by
    intro member
    obtain ⟨given, isGiven, member⟩ := List.mem_flatMap.mp member
    have notInName := notInWord (writable.words given isGiven)
    have notInValue := not_mem_escape (noReturn given isGiven) (by decide)
    simp [Attribute.written, notInName, notInValue] at member
  have notInName := notInWord word
  simp only [startTag, List.mem_append, List.mem_cons, not_or]
  exact ⟨⟨⟨by decide, notInName⟩, notWritten⟩, by decide⟩

namespace TagScan

/-- The letters of a tag's name are taken one by one. -/
theorem run?_name
    (letters read rest : List Char)
    (attributes : List Attribute)
    (small : ∀ letter ∈ letters, letter.isLower = true) :
    run? ⟨.name, read, attributes, [], []⟩ (letters ++ rest) =
      run? ⟨.name, letters.reverse ++ read, attributes, [], []⟩ rest := by
  induction letters generalizing read with
  | nil =>
      rfl
  | cons letter letters inductionHypothesis =>
      have isSmall := small letter List.mem_cons_self
      have stepped :
          step ⟨.name, read, attributes, [], []⟩ letter =
            .inl ⟨.name, letter :: read, attributes, [], []⟩ := by
        simp [step, isSpace_of_isLower isSmall, toLower_replaceNul_of_isLower isSmall,
          ne_of_isLower isSmall (by decide : '/'.isLower = false),
          ne_of_isLower isSmall (by decide : '>'.isLower = false)]
      rw [List.cons_append, run?, stepped]
      dsimp only
      rw [inductionHypothesis _ fun letter member =>
        small letter (List.mem_cons_of_mem _ member)]
      simp

/-- The letters of an attribute's name are taken one by one. -/
theorem run?_attributeName
    (letters read rest : List Char)
    (name : List Char)
    (attributes : List Attribute)
    (small : ∀ letter ∈ letters, letter.isLower = true) :
    run? ⟨.attributeName, name, attributes, read, []⟩ (letters ++ rest) =
      run? ⟨.attributeName, name, attributes, letters.reverse ++ read, []⟩ rest := by
  induction letters generalizing read with
  | nil =>
      rfl
  | cons letter letters inductionHypothesis =>
      have isSmall := small letter List.mem_cons_self
      have stepped :
          step ⟨.attributeName, name, attributes, read, []⟩ letter =
            .inl ⟨.attributeName, name, attributes, letter :: read, []⟩ := by
        simp [step, isSpace_of_isLower isSmall, toLower_replaceNul_of_isLower isSmall,
          ne_of_isLower isSmall (by decide : '/'.isLower = false),
          ne_of_isLower isSmall (by decide : '>'.isLower = false),
          ne_of_isLower isSmall (by decide : '='.isLower = false)]
      rw [List.cons_append, run?, stepped]
      dsimp only
      rw [inductionHypothesis _ fun letter member =>
        small letter (List.mem_cons_of_mem _ member)]
      simp

/-- What stands between quotation marks is taken as the value. -/
theorem run?_value
    (written read rest : List Char)
    (name attributeName : List Char)
    (attributes : List Attribute)
    (unquoted : '"' ∉ written)
    (noNul : '\x00' ∉ written) :
    run? ⟨.quotedValue '"', name, attributes, attributeName, read⟩ (written ++ rest) =
      run? ⟨.quotedValue '"', name, attributes, attributeName, written.reverse ++ read⟩ rest := by
  induction written generalizing read with
  | nil =>
      rfl
  | cons character written inductionHypothesis =>
      rw [List.mem_cons, not_or] at unquoted noNul
      have stepped :
          step ⟨.quotedValue '"', name, attributes, attributeName, read⟩ character =
            .inl ⟨.quotedValue '"', name, attributes, attributeName, character :: read⟩ := by
        simp [step, addValue, replaceNul, Ne.symm unquoted.1, Ne.symm noNul.1]
      rw [List.cons_append, run?, stepped]
      dsimp only
      rw [inductionHypothesis _ unquoted.2 noNul.2]
      simp

/-- Whether an attribute or the end of the tag may follow at once. -/
def endsPart (place : TagPlace) : Bool :=
  place == .name || place == .afterQuotedValue

/-- A space and a letter begin an attribute. -/
theorem run?_openAttribute
    {place : TagPlace}
    {first : Char}
    (name : List Char)
    (attributes : List Attribute)
    (rest : List Char)
    (stands : endsPart place = true)
    (small : first.isLower = true) :
    run? ⟨place, name, attributes, [], []⟩ (' ' :: first :: rest) =
      run? ⟨.attributeName, name, attributes, [first], []⟩ rest := by
  have left :
      step ⟨place, name, attributes, [], []⟩ ' ' =
        .inl ⟨.beforeAttribute, name, attributes, [], []⟩ := by
    rw [endsPart, Bool.or_eq_true, beq_iff_eq, beq_iff_eq] at stands
    rcases stands with rfl | rfl
    · rfl
    · rfl
  have opened :
      step ⟨.beforeAttribute, name, attributes, [], []⟩ first =
        .inl ⟨.attributeName, name, attributes, [first], []⟩ := by
    simp [step, beforeAttribute, openAttribute, closeAttribute, isSpace_of_isLower small,
      toLower_replaceNul_of_isLower small,
      ne_of_isLower small (by decide : '/'.isLower = false),
      ne_of_isLower small (by decide : '>'.isLower = false)]
  rw [run?, left]
  dsimp only
  rw [run?, opened]

/-- An attribute that is written is read behind those before it. -/
theorem run?_written
    {place : TagPlace}
    {given : Attribute}
    (name : List Char)
    (attributes : List Attribute)
    (rest : List Char)
    (stands : endsPart place = true)
    (word : isWord given.name = true)
    (fresh : ∀ earlier ∈ attributes, earlier.name ≠ given.name)
    (noNul : '\x00' ∉ given.value.toList) :
    run? ⟨place, name, attributes, [], []⟩ (given.written ++ rest) =
      run? ⟨.afterQuotedValue, name, given :: attributes, [], []⟩ rest := by
  obtain ⟨first, more, spelled, smallFirst, smallMore⟩ := exists_cons_of_isWord word
  have noNulWritten : '\x00' ∉ escape given.value.toList :=
    not_mem_escape noNul (by decide)
  have whole : String.ofList (more.reverse ++ [first]).reverse = given.name := by
    rw [List.reverse_append, List.reverse_reverse, List.reverse_singleton, List.singleton_append,
      ← spelled, String.ofList_toList]
  have unknown : attributes.any (·.name == given.name) = false := by
    rw [List.any_eq_false]
    intro earlier member
    rw [beq_iff_eq]
    exact fresh earlier member
  have parts :
      given.written ++ rest =
        ' ' :: first :: (more ++ ('=' :: '"' :: (escape given.value.toList ++ '"' :: rest))) := by
    simp [Attribute.written, spelled]
  rw [parts, run?_openAttribute name attributes _ stands smallFirst,
    run?_attributeName more [first] _ name attributes smallMore]
  have begun :
      step ⟨.attributeName, name, attributes, more.reverse ++ [first], []⟩ '=' =
        .inl ⟨.beforeValue, name, attributes, more.reverse ++ [first], []⟩ := rfl
  have quoted :
      step ⟨.beforeValue, name, attributes, more.reverse ++ [first], []⟩ '"' =
        .inl ⟨.quotedValue '"', name, attributes, more.reverse ++ [first], []⟩ := rfl
  have closed :
      step ⟨.quotedValue '"', name, attributes, more.reverse ++ [first],
          (escape given.value.toList).reverse ++ []⟩ '"' =
        .inl ⟨.afterQuotedValue, name, given :: attributes, [], []⟩ := by
    simp only [step, beq_self_eq_true, if_true, closeAttribute, goto, whole, unknown,
      List.append_nil, List.reverse_reverse, expandValue_escape, String.ofList_toList]
    simp
  rw [run?, begun]
  dsimp only
  rw [run?, quoted]
  dsimp only
  rw [run?_value _ [] _ _ _ _ (quote_not_mem_escape _) noNulWritten, run?, closed]

/-- The attributes that are written are read in their order. -/
theorem run?_flatMap_written
    {place : TagPlace}
    (name : List Char)
    (attributes read : List Attribute)
    (rest : List Char)
    (stands : endsPart place = true)
    (words : ∀ given ∈ attributes, isWord given.name = true)
    (distinct : ((attributes ++ read).map (·.name)).Nodup)
    (noNul : ∀ given ∈ attributes, '\x00' ∉ given.value.toList) :
    ∃ place', endsPart place' = true ∧
      run? ⟨place, name, read, [], []⟩ (attributes.flatMap Attribute.written ++ rest) =
        run? ⟨place', name, attributes.reverse ++ read, [], []⟩ rest := by
  induction attributes generalizing place read with
  | nil =>
      exact ⟨place, stands, rfl⟩
  | cons given attributes inductionHypothesis =>
      have fresh : ∀ earlier ∈ read, earlier.name ≠ given.name := by
        intro earlier member same
        rw [List.cons_append, List.map_cons, List.nodup_cons] at distinct
        exact distinct.1 (List.mem_map.mpr
          ⟨earlier, List.mem_append_right attributes member, same⟩)
      have moved : ((attributes ++ given :: read).map (·.name)).Nodup :=
        (List.Perm.map _ List.perm_middle).nodup_iff.mpr distinct
      obtain ⟨place', stands', taken⟩ := inductionHypothesis (given :: read)
        (by rfl : endsPart .afterQuotedValue = true)
        (fun given member => words given (List.mem_cons_of_mem _ member)) moved
        (fun given member => noNul given (List.mem_cons_of_mem _ member))
      refine ⟨place', stands', ?_⟩
      rw [List.flatMap_cons, List.append_assoc,
        run?_written name read _ stands (words given List.mem_cons_self) fresh
          (noNul given List.mem_cons_self), taken]
      simp

/-- The bracket ends the tag. -/
theorem run?_end
    {place : TagPlace}
    (name : List Char)
    (attributes : List Attribute)
    (rest : List Char)
    (stands : endsPart place = true) :
    run? ⟨place, name, attributes, [], []⟩ ('>' :: rest) =
      some (⟨String.ofList name.reverse, attributes.reverse, false⟩, rest) := by
  rw [endsPart, Bool.or_eq_true, beq_iff_eq, beq_iff_eq] at stands
  rcases stands with rfl | rfl
  · rfl
  · rfl

/-- A tag is read as the one that it was written for. -/
theorem run?_start
    {name : String}
    {attributes : List Attribute}
    (word : isWord name = true)
    (writable : AreWritable attributes)
    (rest : List Char) :
    start.run? (name.toList ++ (attributes.flatMap Attribute.written ++ '>' :: rest)) =
      some (⟨name, attributes, false⟩, rest) := by
  have small : ∀ letter ∈ name.toList, letter.isLower = true := by
    rw [isWord, Bool.and_eq_true, List.all_eq_true] at word
    exact word.2
  obtain ⟨place, stands, taken⟩ := run?_flatMap_written name.toList.reverse
    attributes [] ('>' :: rest) (by rfl : endsPart .name = true) writable.words
    (by rw [List.append_nil]; exact writable.distinct) writable.noNul
  rw [start, run?_name name.toList [] _ [] small, List.append_nil, taken,
    run?_end _ _ _ stands, List.append_nil, List.reverse_reverse, List.reverse_reverse,
    String.ofList_toList]

end TagScan

namespace Lexer

/-- A start tag that is written is read as one token. -/
theorem next?_startTag
    {name : String}
    {attributes : List Attribute}
    (word : isWord name = true)
    (writable : AreWritable attributes)
    (sectionsAllowed : Bool)
    (rest : List Char) :
    next? .markup sectionsAllowed (startTag name attributes ++ rest) =
      some (.startTag ⟨name, attributes, false⟩, rest) := by
  obtain ⟨first, more, spelled, smallFirst, _⟩ := exists_cons_of_isWord word
  have taken := TagScan.run?_start word writable rest
  have parts :
      startTag name attributes ++ rest =
        '<' :: first :: (more ++ (attributes.flatMap Attribute.written ++ '>' :: rest)) := by
    simp [startTag, spelled]
  rw [spelled, List.cons_append] at taken
  rw [parts, next?, markup, if_pos (by rfl), bracket]
  · rw [if_pos (isAlpha_of_isLower smallFirst), tag, taken]
  · exact ne_of_isLower smallFirst (by decide)
  · exact ne_of_isLower smallFirst (by decide)
  · intro _ same
    exact absurd same (ne_of_isLower smallFirst (by decide))
  · intro _ _ same
    exact absurd same (ne_of_isLower smallFirst (by decide))
  · intro same
    exact absurd same (ne_of_isLower smallFirst (by decide))

/-- An end tag that is written is read as one token. -/
theorem next?_endTag
    {name : String}
    (word : isWord name = true)
    (sectionsAllowed : Bool)
    (rest : List Char) :
    next? .markup sectionsAllowed (Html.endTag name ++ rest) = some (.endTag name, rest) := by
  obtain ⟨first, more, spelled, smallFirst, _⟩ := exists_cons_of_isWord word
  have taken := TagScan.run?_start word areWritable_nil rest
  have parts :
      Html.endTag name ++ rest = '<' :: '/' :: first :: (more ++ '>' :: rest) := by
    simp [Html.endTag, spelled]
  rw [spelled, List.flatMap_nil, List.nil_append, List.cons_append] at taken
  rw [parts, next?, markup, if_pos (by rfl), bracket]
  · rw [if_pos (isAlpha_of_isLower smallFirst), endTag, tag, taken]
  · exact ne_of_isLower smallFirst (by decide)

end Lexer

end CompilePlayground.Html
