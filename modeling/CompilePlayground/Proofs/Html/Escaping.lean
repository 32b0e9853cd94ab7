import CompilePlayground.Html.Lexer

namespace CompilePlayground.Html

/-!
# Escaped text is read back

A character that would open a tag or a reference or end a value is written as the reference that
names it. The name of such a reference ends in a semicolon and no other name goes on behind it, so
that what follows it in the page does not count. Escaped text is read back in a value, where it is
decoded as a whole, and between tags, where each character is a token of its own.
-/

/-- The name of the reference that stands for a character, if it must not stand for itself. -/
def referenceName? : Char → Option (List Char)
  | '&' => some ['a', 'm', 'p', ';']
  | '<' => some ['l', 't', ';']
  | '>' => some ['g', 't', ';']
  | '"' => some ['q', 'u', 'o', 't', ';']
  | _ => none

/-- What is written for a character. -/
def escapeChar (character : Char) : List Char :=
  match referenceName? character with
  | some name => '&' :: name
  | none => [character]

/-- What is written for a text. -/
def escape (text : List Char) : List Char :=
  text.flatMap escapeChar

/-- A character without a reference opens nothing and ends no value. -/
theorem plain_of_referenceName?_eq_none
    {character : Char}
    (plain : referenceName? character = none) :
    character ≠ '&' ∧ character ≠ '<' ∧ character ≠ '"' := by
  refine ⟨?_, ?_, ?_⟩
  all_goals
    rintro rfl
    cases plain

namespace Reference

/-! ## Names that nothing goes on behind -/

/-- Whether none of some names goes on behind a given one. -/
def isLastOf (name : List Char) (names : List (String × String)) : Bool :=
  names.all fun entry => !name.isPrefixOf entry.1.toList || entry.1.toList == name

/-- What follows a name does not make another name match. -/
theorem improve_append
    {name : List Char}
    {entry : String × String}
    (ends : name <+: entry.1.toList → entry.1.toList = name)
    (rest : List Char)
    (best? : Option NamedMatch) :
    NamedMatch.improve (name ++ rest) best? entry = NamedMatch.improve name best? entry := by
  -- A name that begins the longer input is a beginning of the given name or goes on behind it.
  have same : entry.1.toList.isPrefixOf (name ++ rest) = entry.1.toList.isPrefixOf name := by
    rw [Bool.eq_iff_iff, List.isPrefixOf_iff_prefix, List.isPrefixOf_iff_prefix]
    constructor
    · intro matched
      rcases List.prefix_or_prefix_of_prefix matched (List.prefix_append name rest) with
        shorter | longer
      · exact shorter
      · exact ⟨[], by rw [ends longer, List.append_nil]⟩
    · intro matched
      exact matched.trans (List.prefix_append name rest)
  simp only [NamedMatch.improve, same]

theorem foldl_improve_append
    {name : List Char}
    {names : List (String × String)}
    (last : isLastOf name names = true)
    (rest : List Char)
    (best? : Option NamedMatch) :
    names.foldl (NamedMatch.improve (name ++ rest)) best? =
      names.foldl (NamedMatch.improve name) best? := by
  induction names generalizing best? with
  | nil =>
      rfl
  | cons entry names inductionHypothesis =>
      rw [isLastOf, List.all_cons, Bool.and_eq_true, Bool.or_eq_true, Bool.not_eq_true',
        beq_iff_eq] at last
      have ends : name <+: entry.1.toList → entry.1.toList = name := by
        intro longer
        rcases last.1 with shorter | same
        · rw [← List.isPrefixOf_iff_prefix, shorter] at longer
          cases longer
        · exact same
      rw [List.foldl_cons, List.foldl_cons, improve_append ends,
        inductionHypothesis last.2]

/-- Whether a name with its semicolon stands for a text, whatever follows it. -/
def denotes (name text : List Char) : Bool :=
  match name with
  | [] => false
  | first :: _ =>
      first != '#' && name.getLast? == some ';' && isLastOf name (namesFor first) &&
        longestName? name == some ⟨name, text⟩

theorem decode_of_denotes
    {name text : List Char}
    (known : denotes name text = true)
    (inAttribute : Bool)
    (rest : List Char) :
    decode inAttribute (name ++ rest) = (text, rest) := by
  cases name with
  | nil =>
      cases known
  | cons first more =>
      simp only [denotes, Bool.and_eq_true, bne_iff_ne, ne_eq, beq_iff_eq] at known
      obtain ⟨⟨⟨letter, closed⟩, last⟩, found⟩ := known
      have longest : longestName? (first :: more ++ rest) = some ⟨first :: more, text⟩ := by
        rw [← found]
        exact foldl_improve_append last rest none
      have dropped : (first :: more ++ rest).drop (first :: more).length = rest :=
        List.drop_left
      rw [decode, decode?]
      · rw [longest]
        simp only [closed, dropped, bne_self_eq_false, Bool.and_false, Bool.false_and,
          Bool.false_eq_true, if_false, Option.getD_some]
      all_goals
        intro digits same
        exact letter (List.cons.inj same).1

/-- The references that escaping writes stand for the characters that they replace. -/
theorem denotes_of_referenceName?
    {character : Char}
    {name : List Char}
    (named : referenceName? character = some name) :
    denotes name [character] = true := by
  unfold referenceName? at named
  split at named
  all_goals
    cases named
  all_goals
    decide +kernel

end Reference

/-! ## Values -/

theorem escape_cons (character : Char) (text : List Char) :
    escape (character :: text) = escapeChar character ++ escape text :=
  rfl

/-- An escaped text is decoded to the text, behind what was read before it. -/
theorem expandWith_escape
    (text read : List Char)
    {fuel : Nat}
    (enough : (escape text).length ≤ fuel) :
    expandWith fuel read (escape text) = read.reverse ++ text := by
  induction text generalizing fuel read with
  | nil =>
      cases fuel <;> simp [escape, expandWith]
  | cons character text inductionHypothesis =>
      rw [escape_cons] at enough ⊢
      cases named : referenceName? character with
      | some name =>
          simp only [escapeChar, named, List.cons_append, List.length_cons,
            List.length_append] at enough ⊢
          obtain ⟨fuel, rfl⟩ : ∃ less, fuel = less + 1 := ⟨fuel - 1, by omega⟩
          rw [expandWith, Reference.decode_of_denotes (Reference.denotes_of_referenceName? named)]
          dsimp only
          rw [inductionHypothesis _ (by omega), List.reverse_append, List.append_assoc]
          rfl
      | none =>
          simp only [escapeChar, named, List.cons_append, List.nil_append,
            List.length_cons] at enough ⊢
          obtain ⟨fuel, rfl⟩ : ∃ less, fuel = less + 1 := ⟨fuel - 1, by omega⟩
          rw [expandWith]
          · rw [inductionHypothesis _ (by omega), List.reverse_cons, List.append_assoc]
            rfl
          · intro same
            exact (plain_of_referenceName?_eq_none named).1 same

theorem expandValue_escape (text : List Char) :
    expandValue (escape text) = String.ofList text := by
  rw [expandValue, expandWith_escape text [] (Nat.le_refl _), List.reverse_nil, List.nil_append]

/-! ## Text between tags -/

/-- An escaped character is read as that character. -/
theorem Lexer.next?_escapeChar (sectionsAllowed : Bool) (character : Char) (rest : List Char) :
    Lexer.next? .markup sectionsAllowed (escapeChar character ++ rest) =
      some (.text [character], rest) := by
  cases named : referenceName? character with
  | some name =>
      have decoded :=
        Reference.decode_of_denotes (Reference.denotes_of_referenceName? named) false rest
      simp [escapeChar, named, Lexer.next?, Lexer.markup, decoded]
  | none =>
      obtain ⟨notReference, notTag, _⟩ := plain_of_referenceName?_eq_none named
      simp [escapeChar, named, Lexer.next?, Lexer.markup, notReference, notTag]

/-- The characters that references are written with. -/
def referenceCharacters : List Char :=
  ['&', 'a', 'g', 'l', 'm', 'o', 'p', 'q', 't', 'u', ';']

/-- A character of an escaped text stands for itself or belongs to a reference. -/
theorem mem_escape
    {written : Char}
    {text : List Char}
    (member : written ∈ escape text) :
    written ∈ text ∧ referenceName? written = none ∨ written ∈ referenceCharacters := by
  obtain ⟨character, inText, member⟩ := List.mem_flatMap.mp member
  cases named : referenceName? character with
  | some name =>
      right
      rw [escapeChar, named] at member
      have spelled : ('&' :: name).all (referenceCharacters.contains ·) = true := by
        unfold referenceName? at named
        split at named
        all_goals
          cases named
        all_goals
          decide
      exact List.contains_iff_mem.mp (List.all_eq_true.mp spelled written member)
  | none =>
      left
      rw [escapeChar, named, List.mem_singleton] at member
      subst member
      exact ⟨inText, named⟩

/-- An escaped text can stand between quotation marks. -/
theorem quote_not_mem_escape (text : List Char) : '"' ∉ escape text := by
  intro member
  rcases mem_escape member with ⟨_, plain⟩ | spelled
  · cases plain
  · exact absurd spelled (by decide)

/-- Escaping brings in no character that no reference is written with. -/
theorem not_mem_escape
    {unwanted : Char}
    {text : List Char}
    (absent : unwanted ∉ text)
    (unspelled : unwanted ∉ referenceCharacters) :
    unwanted ∉ escape text := by
  intro member
  rcases mem_escape member with ⟨inText, _⟩ | spelled
  · exact absent inText
  · exact unspelled spelled

end CompilePlayground.Html
