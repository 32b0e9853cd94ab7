import CompilePlayground.Json.Scalar
import CompilePlayground.Proofs.Text.Decoding
import Mathlib.Algebra.Group.Int.Defs
import Mathlib.Algebra.Group.Nat.Defs
import Mathlib.Tactic.SplitIfs

namespace CompilePlayground.Json

open Text

/-!
# Words, strings and numbers that are written are read back

A reader is told by what it leaves of the input. What is written for a string is read back whatever
follows it, and what is written for a number if nothing follows that could belong to it.
-/

/-! ## Cursors -/

namespace Cursor

variable {cursor : Cursor} {byte : UInt8} {rest : Bytes}

theorem rest_advance (stands : cursor.rest = byte :: rest) : cursor.advance.rest = rest := by
  simp [advance, next?, stands]

theorem next?_eq (stands : cursor.rest = byte :: rest) :
    cursor.next? = some (byte, cursor.advance) := by
  simp [advance, next?, stands]

theorem peek?_eq (stands : cursor.rest = byte :: rest) : cursor.peek? = some byte := by
  simp [peek?, stands]

theorem peek?_eq_none (stands : cursor.rest = []) : cursor.peek? = none := by
  simp [peek?, stands]

/-- A byte that is not blank is not passed over. -/
theorem skipBlank_eq
    (stands : cursor.rest = byte :: rest)
    (dark : isBlankByte byte = false) :
    cursor.skipBlank = cursor := by
  obtain ⟨bytes, position⟩ := cursor
  cases stands
  simp [skipBlank, skipBlankFrom, dark]

theorem skipBlank_eq_of_nil (stands : cursor.rest = []) : cursor.skipBlank = cursor := by
  obtain ⟨bytes, position⟩ := cursor
  cases stands
  rfl

end Cursor

/-- Nothing follows, or a byte that parts values or ends what they are in. -/
def Closes (rest : Bytes) : Prop :=
  rest = [] ∨ ∃ byte more, rest = byte :: more ∧ (byte = 0x2C ∨ byte = 0x5D ∨ byte = 0x7D)

/-- A reader takes what is written, as long as what follows closes it, and gives a value. -/
def Takes {α : Type} (read : Cursor → Outcome α) (written : Bytes) (value : α) : Prop :=
  ∀ cursor rest, Closes rest → cursor.rest = written ++ rest →
    ∃ later, read cursor = .ok (value, later) ∧ later.rest = rest

/-- A word is read letter by letter. -/
theorem readWord_written
    {letters rest : Bytes}
    {cursor : Cursor}
    (stands : cursor.rest = letters ++ rest) :
    ∃ later, readWord letters cursor = .ok ((), later) ∧ later.rest = rest := by
  induction letters generalizing cursor with
  | nil =>
      exact ⟨cursor, rfl, stands⟩
  | cons letter letters inductionHypothesis =>
      obtain ⟨later, read, left⟩ := inductionHypothesis (Cursor.rest_advance stands)
      refine ⟨later, ?_, left⟩
      rw [readWord, Cursor.next?_eq stands]
      simp only [if_true]
      exact read

/-! ## Strings -/

/-- What is written for a character in a string. -/
def escaped (character : Char) : Bytes :=
  (escapeCharacter character).flatMap String.utf8EncodeChar

/-- What is written for a string between its quotes. -/
def quoted (text : String) : Bytes :=
  text.toList.flatMap escaped

theorem foldl_push (characters : List Char) (written : String) :
    characters.foldl String.push written = written ++ String.ofList characters := by
  induction characters generalizing written with
  | nil =>
      simp
  | cons character rest inductionHypothesis =>
      rw [List.foldl_cons, inductionHypothesis, ← String.toList_inj]
      simp

theorem toList_writeString (text written : String) :
    (writeString text written).toList =
      written.toList ++ '"' :: (text.toList.flatMap escapeCharacter ++ ['"']) := by
  have onto (characters : List Char) (written : String) :
      (characters.foldl
          (fun written character => (escapeCharacter character).foldl String.push written)
          written).toList =
        written.toList ++ characters.flatMap escapeCharacter := by
    induction characters generalizing written with
    | nil =>
        simp
    | cons character rest inductionHypothesis =>
        rw [List.foldl_cons, inductionHypothesis, foldl_push]
        simp
  rw [writeString, String.foldl_eq_foldl_toList, String.toList_push, onto]
  simp

/-- A string is written between quotes, after what is there. -/
theorem encode_writeString (text written : String) :
    Utf8.encode (writeString text written) =
      Utf8.encode written ++ 0x22 :: (quoted text ++ [0x22]) := by
  have quote : String.utf8EncodeChar '"' = [0x22] := by
    decide
  rw [Utf8.encode_eq, Utf8.encode_eq, toList_writeString, List.flatMap_append,
    List.flatMap_cons, List.flatMap_append, List.flatMap_assoc, List.flatMap_singleton, quote]
  rfl

/-- A byte that stands for itself in a string. -/
def IsPlainByte (byte : UInt8) : Prop :=
  byte ≠ 0x22 ∧ byte ≠ 0x5C ∧ ¬byte < 0x20

theorem isPlainByte_of_large {byte : UInt8} (large : 0x80 ≤ byte.toNat) : IsPlainByte byte := by
  refine ⟨?_, ?_, ?_⟩
  · rintro rfl
    exact absurd large (by decide)
  · rintro rfl
    exact absurd large (by decide)
  · rw [UInt8.lt_iff_toNat_lt]
    exact Nat.not_lt.mpr (Nat.le_trans (by decide) large)

/-- A character that is not escaped has bytes that stand for themselves. -/
theorem isPlainByte_of_mem
    {character : Char}
    {byte : UInt8}
    (notQuote : character ≠ '"')
    (notBackslash : character ≠ '\\')
    (notControl : ¬character.toNat < 0x20)
    (member : byte ∈ String.utf8EncodeChar character) :
    IsPlainByte byte := by
  have shape : character.val.toNat = character.toNat :=
    rfl
  have differs (other : Char) (apart : character ≠ other) : character.toNat ≠ other.toNat := by
    intro same
    exact apart (Char.toNat_inj.mp same)
  have quote := differs '"' notQuote
  have backslash := differs '\\' notBackslash
  simp only [Char.reduceToNat] at quote backslash
  unfold String.utf8EncodeChar at member
  simp only [shape] at member
  split_ifs at member with one two three
  · cases List.mem_singleton.mp member
    have value : (UInt8.ofNat character.toNat).toNat = character.toNat := by
      rw [UInt8.toNat_ofNat']
      omega
    refine ⟨?_, ?_, ?_⟩
    · intro same
      rw [same] at value
      exact quote value.symm
    · intro same
      rw [same] at value
      exact backslash value.symm
    · rw [UInt8.lt_iff_toNat_lt, value]
      exact notControl
  -- every byte of a longer encoding has its highest bit set
  · simp only [List.mem_cons, List.not_mem_nil, or_false] at member
    rcases member with rfl | rfl <;> refine isPlainByte_of_large ?_ <;>
      rw [UInt8.toNat_ofNat'] <;> omega
  · simp only [List.mem_cons, List.not_mem_nil, or_false] at member
    rcases member with rfl | rfl | rfl <;> refine isPlainByte_of_large ?_ <;>
      rw [UInt8.toNat_ofNat'] <;> omega
  · simp only [List.mem_cons, List.not_mem_nil, or_false] at member
    rcases member with rfl | rfl | rfl | rfl <;> refine isPlainByte_of_large ?_ <;>
      rw [UInt8.toNat_ofNat'] <;> omega

/-- The digit that is written for a value below sixteen is read as that value. -/
theorem hexValue?_hexDigit : ∀ value : Fin 16,
    String.utf8EncodeChar (hexDigit value.val) = [(hexDigit value.val).toUInt8] ∧
      hexValue? (hexDigit value.val).toUInt8 = some value.val := by
  decide

/-- A character in a string is a backslash with a letter, a backslash with its code, or plain. -/
theorem escaped_cases (character : Char) :
    (∃ letter byte, letter ≠ 0x75 ∧ escapedByte? letter = some byte ∧
      escaped character = [0x5C, letter] ∧ String.utf8EncodeChar character = [byte]) ∨
    (∃ sixteens ones, character.toNat < 0x20 ∧
      escaped character = [0x5C, 0x75, 0x30, 0x30, sixteens, ones] ∧
      hexValue? sixteens = some (character.toNat / 16) ∧
      hexValue? ones = some (character.toNat % 16)) ∨
    (escaped character = String.utf8EncodeChar character ∧
      ∀ byte ∈ String.utf8EncodeChar character, IsPlainByte byte) := by
  unfold escaped
  fun_cases escapeCharacter character
  · exact .inl ⟨0x22, 0x22, by decide⟩
  · exact .inl ⟨0x5C, 0x5C, by decide⟩
  · exact .inl ⟨0x6E, 0x0A, by decide⟩
  · exact .inl ⟨0x72, 0x0D, by decide⟩
  · exact .inl ⟨0x74, 0x09, by decide⟩
  · exact .inl ⟨0x62, 0x08, by decide⟩
  · exact .inl ⟨0x66, 0x0C, by decide⟩
  · next control =>
      obtain ⟨writtenSixteens, readSixteens⟩ :=
        hexValue?_hexDigit ⟨character.toNat / 16, by omega⟩
      obtain ⟨writtenOnes, readOnes⟩ :=
        hexValue?_hexDigit ⟨character.toNat % 16, by omega⟩
      refine .inr (.inl ⟨_, _, control, ?_, readSixteens, readOnes⟩)
      simp only [List.flatMap_cons, List.flatMap_nil, writtenSixteens, writtenOnes]
      rfl
  · next notQuote notBackslash _ _ _ _ _ notControl =>
      refine .inr (.inr ⟨by simp, fun byte member => ?_⟩)
      exact isPlainByte_of_mem notQuote notBackslash notControl member

/-- The code of a control character is read as the character. -/
theorem readEscape_of_control
    {character : Char}
    {cursor : Cursor}
    {sixteens ones : UInt8}
    {rest : Bytes}
    (control : character.toNat < 0x20)
    (readSixteens : hexValue? sixteens = some (character.toNat / 16))
    (readOnes : hexValue? ones = some (character.toNat % 16))
    (stands : cursor.rest = 0x75 :: 0x30 :: 0x30 :: sixteens :: ones :: rest) :
    ∃ later, readEscape cursor = .ok (String.utf8EncodeChar character, later) ∧
      later.rest = rest := by
  have zero : hexValue? 0x30 = some 0 := by
    decide
  have first := Cursor.rest_advance stands
  have after := Cursor.rest_advance (Cursor.rest_advance (Cursor.rest_advance
    (Cursor.rest_advance first)))
  have value : ((0 * 16 + 0) * 16 + character.toNat / 16) * 16 + character.toNat % 16 =
      character.toNat := by
    omega
  have whole : readHexEscape cursor.advance =
      .ok (character.toNat, cursor.advance.advance.advance.advance.advance) := by
    rw [readHexEscape, first]
    simp only [zero, readSixteens, readOnes, value]
  have notLow : isLowSurrogate character.toNat = false := by
    simp only [isLowSurrogate, Bool.and_eq_false_iff, decide_eq_false_iff_not]
    omega
  have notHigh : isHighSurrogate character.toNat = false := by
    simp only [isHighSurrogate, Bool.and_eq_false_iff, decide_eq_false_iff_not]
    omega
  refine ⟨_, ?_, after⟩
  rw [readEscape, Cursor.next?_eq stands]
  simp only [if_true, readCodePoint, whole, andThen, notLow, notHigh, Bool.false_eq_true,
    if_false, Char.ofNat_toNat, Utf8.encode_eq]
  simp

/-- Bytes that stand for themselves are taken one by one. -/
theorem readStringBytes_of_isPlainByte
    {bytes rest : Bytes}
    (read : Bytes)
    {steps : Nat}
    {cursor : Cursor}
    (plain : ∀ byte ∈ bytes, IsPlainByte byte)
    (enough : bytes.length ≤ steps)
    (stands : cursor.rest = bytes ++ rest) :
    ∃ left later,
      readStringBytes read steps cursor = readStringBytes (bytes.reverse ++ read) left later ∧
      steps ≤ left + bytes.length ∧ later.rest = rest := by
  induction bytes generalizing read steps cursor with
  | nil =>
      exact ⟨steps, cursor, rfl, Nat.le_refl _, stands⟩
  | cons byte bytes inductionHypothesis =>
      cases steps with
      | zero =>
          exact absurd enough (by simp)
      | succ steps =>
          obtain ⟨notQuote, notBackslash, notControl⟩ := plain byte List.mem_cons_self
          obtain ⟨left, later, same, counts, after⟩ :=
            inductionHypothesis (byte :: read)
              (fun other member => plain other (List.mem_cons_of_mem _ member))
              (Nat.le_of_succ_le_succ enough) (Cursor.rest_advance stands)
          refine ⟨left, later, ?_, ?_, after⟩
          · rw [readStringBytes, Cursor.next?_eq stands]
            simp only [notQuote, notBackslash, notControl, if_false, same]
            simp
          · simp only [List.length_cons]
            omega

/-- What is written for a character is read as the bytes of the character. -/
theorem readStringBytes_escaped
    {character : Char}
    {rest : Bytes}
    (read : Bytes)
    {steps : Nat}
    {cursor : Cursor}
    (enough : (escaped character).length ≤ steps)
    (stands : cursor.rest = escaped character ++ rest) :
    ∃ left later,
      readStringBytes read steps cursor =
        readStringBytes ((String.utf8EncodeChar character).reverse ++ read) left later ∧
      steps ≤ left + (escaped character).length ∧ later.rest = rest := by
  rcases escaped_cases character with
    ⟨letter, byte, notCode, stand, written, encoded⟩ |
    ⟨sixteens, ones, control, written, readSixteens, readOnes⟩ | ⟨written, plain⟩
  · rw [written] at stands enough ⊢
    have after := Cursor.rest_advance stands
    have escape : readEscape cursor.advance = .ok ([byte], cursor.advance.advance) := by
      rw [readEscape, Cursor.next?_eq after]
      simp only [notCode, if_false, stand]
    cases steps with
    | zero =>
        exact absurd enough (by simp)
    | succ steps =>
        refine ⟨steps, cursor.advance.advance, ?_, by simp, Cursor.rest_advance after⟩
        rw [readStringBytes, Cursor.next?_eq stands, encoded]
        simp only [escape]
        simp
  · rw [written] at stands enough ⊢
    obtain ⟨later, escape, after⟩ :=
      readEscape_of_control control readSixteens readOnes (Cursor.rest_advance stands)
    cases steps with
    | zero =>
        exact absurd enough (by simp)
    | succ steps =>
        refine ⟨steps, later, ?_, by simp, after⟩
        rw [readStringBytes, Cursor.next?_eq stands]
        simp only [escape]
        simp
  · rw [written] at stands enough ⊢
    exact readStringBytes_of_isPlainByte read plain enough stands

/-- What is written for characters, up to the closing quote, is read as their bytes. -/
theorem readStringBytes_quoted
    {characters : List Char}
    {rest : Bytes}
    (read : Bytes)
    {steps : Nat}
    {cursor : Cursor}
    (enough : (characters.flatMap escaped).length < steps)
    (stands : cursor.rest = characters.flatMap escaped ++ 0x22 :: rest) :
    ∃ later,
      readStringBytes read steps cursor =
        .ok (read.reverse ++ characters.flatMap String.utf8EncodeChar, later) ∧
      later.rest = rest := by
  induction characters generalizing read steps cursor with
  | nil =>
      cases steps with
      | zero =>
          exact absurd enough (by simp)
      | succ steps =>
          refine ⟨cursor.advance, ?_, Cursor.rest_advance stands⟩
          rw [readStringBytes, Cursor.next?_eq stands]
          simp
  | cons character characters inductionHypothesis =>
      rw [List.flatMap_cons, List.append_assoc] at stands
      rw [List.flatMap_cons, List.length_append] at enough
      have fits : (escaped character).length ≤ steps := by
        omega
      obtain ⟨left, later, same, counts, after⟩ := readStringBytes_escaped read fits stands
      have short : (characters.flatMap escaped).length < left := by
        omega
      obtain ⟨last, reads, ends⟩ :=
        inductionHypothesis ((String.utf8EncodeChar character).reverse ++ read) short after
      refine ⟨last, ?_, ends⟩
      rw [same, reads]
      simp

/-- What is written for a string, from its opening quote on, is read as the string. -/
theorem readString_quoted
    {text : String}
    {cursor : Cursor}
    {rest : Bytes}
    (stands : cursor.rest = quoted text ++ 0x22 :: rest) :
    ∃ later, readString cursor = .ok (text, later) ∧ later.rest = rest := by
  have short : (text.toList.flatMap escaped).length < cursor.rest.length + 1 := by
    rw [stands, quoted, List.length_append]
    omega
  obtain ⟨later, reads, after⟩ := readStringBytes_quoted [] short stands
  have decoded : Utf8.decode? (text.toList.flatMap String.utf8EncodeChar) = .ok text := by
    rw [Utf8.decode?_eq_ok_iff, Utf8.encode_eq]
  refine ⟨later, ?_, after⟩
  rw [readString, reads]
  simp only [andThen, List.reverse_nil, List.nil_append, decoded]

/-! ## Numbers -/

/-- A whole number that is kept as it is. -/
def Number.IsWhole : Number → Prop
  | .integer value => -(2 ^ 63) ≤ value ∧ value < 2 ^ 64
  | .double .. => False

/-- A digit is written as one byte, which is read as its value. -/
theorem digitValue?_of_isDigit {digit : Char} (isDigit : digit.isDigit = true) :
    String.utf8EncodeChar digit = [digit.toUInt8] ∧
      digitValue? digit.toUInt8 = some (digit.toNat - '0'.toNat) := by
  have range : 48 ≤ digit.toNat ∧ digit.toNat ≤ 57 := by
    rw [Char.isDigit, Bool.and_eq_true, decide_eq_true_eq, decide_eq_true_eq] at isDigit
    exact ⟨UInt32.le_iff_toNat_le.mp isDigit.1, UInt32.le_iff_toNat_le.mp isDigit.2⟩
  have value : digit.toUInt8.toNat = digit.toNat := by
    have fits : digit.toNat % 256 = digit.toNat := by
      omega
    exact fits
  constructor
  · have small : digit.val.toNat ≤ 127 :=
      Nat.le_trans range.2 (by decide)
    unfold String.utf8EncodeChar
    simp only [small, if_true]
    rfl
  · have bounds : 0x30 ≤ digit.toUInt8 ∧ digit.toUInt8 ≤ 0x39 :=
      ⟨UInt8.le_iff_toNat_le.mpr (value.symm ▸ range.1),
        UInt8.le_iff_toNat_le.mpr (value.symm ▸ range.2)⟩
    rw [digitValue?, if_pos bounds, value]
    rfl

theorem flatMap_utf8EncodeChar_digits
    {digits : List Char}
    (areDigits : ∀ digit ∈ digits, digit.isDigit = true) :
    digits.flatMap String.utf8EncodeChar = digits.map Char.toUInt8 := by
  induction digits with
  | nil =>
      rfl
  | cons digit digits inductionHypothesis =>
      rw [List.flatMap_cons, (digitValue?_of_isDigit (areDigits digit List.mem_cons_self)).1,
        inductionHypothesis fun other member => areDigits other (List.mem_cons_of_mem _ member)]
      rfl

/-- A natural number is written with digits, whose value it is. -/
theorem encode_toString_nat (number : Nat) :
    Utf8.encode (toString number) = (Nat.toDigits 10 number).map Char.toUInt8 := by
  rw [Utf8.encode_eq, Nat.toString_eq_ofList_toDigits, String.toList_ofList]
  exact flatMap_utf8EncodeChar_digits fun _ member =>
    Nat.isDigit_of_mem_toDigits (by decide) (by decide) member

/-- What is not zero is not written with a leading zero. -/
theorem exists_toDigits {number : Nat} (positive : 0 < number) :
    ∃ first rest, Nat.toDigits 10 number = first :: rest ∧ '0'.toNat < first.toNat := by
  induction number using Nat.strongRecOn with
  | ind number inductionHypothesis =>
      by_cases short : number < 10
      · refine ⟨number.digitChar, [], Nat.toDigits_of_lt_base short, ?_⟩
        have digits : ∀ digit : Fin 10, 0 < digit.val →
            '0'.toNat < digit.val.digitChar.toNat := by
          decide
        exact digits ⟨number, short⟩ positive
      · obtain ⟨first, rest, written, leads⟩ :=
          inductionHypothesis (number / 10) (by omega) (by omega)
        refine ⟨first, rest ++ [(number % 10).digitChar], ?_, leads⟩
        rw [Nat.toDigits_of_base_le (by decide) (Nat.le_of_not_lt short), written]
        rfl

theorem le_ofDigitChars (digits : List Char) (significand : Nat) :
    significand ≤ Nat.ofDigitChars 10 digits significand := by
  induction digits generalizing significand with
  | nil =>
      exact Nat.le_refl _
  | cons digit digits inductionHypothesis =>
      rw [Nat.ofDigitChars_cons]
      exact Nat.le_trans (by omega) (inductionHypothesis _)

namespace Closes

variable {rest : Bytes} {cursor : Cursor}

/-- What closes a number is no digit. -/
theorem peekDigit?_eq_none (closes : Closes rest) (stands : cursor.rest = rest) :
    peekDigit? cursor = none := by
  rcases closes with rfl | ⟨byte, more, rfl, rfl | rfl | rfl⟩
  · rw [peekDigit?, Cursor.peek?_eq_none stands]
    rfl
  all_goals
    rw [peekDigit?, Cursor.peek?_eq stands]
    rfl

/-- What closes a number begins no fraction and no exponent. -/
theorem readAfterInteger_eq (closes : Closes rest) (stands : cursor.rest = rest)
    (negative : Bool) (significand : Nat) :
    readAfterInteger negative significand cursor = integerNumber negative significand cursor := by
  rcases closes with rfl | ⟨byte, more, rfl, rfl | rfl | rfl⟩
  · rw [readAfterInteger, Cursor.peek?_eq_none stands]
  all_goals
    rw [readAfterInteger, Cursor.peek?_eq stands]
    rfl

end Closes

/-- Digits are read as their value, if it is kept exactly. -/
theorem readDigits_written
    {digits : List Char}
    {rest : Bytes}
    {significand : Nat}
    (count : Nat)
    {steps : Nat}
    {cursor : Cursor}
    (areDigits : ∀ digit ∈ digits, digit.isDigit = true)
    (exact : Nat.ofDigitChars 10 digits significand ≤ greatestSignificand)
    (enough : digits.length ≤ steps)
    (closes : Closes rest)
    (stands : cursor.rest = digits.map Char.toUInt8 ++ rest) :
    ∃ later,
      readDigits significand count steps cursor =
        (Nat.ofDigitChars 10 digits significand, count + digits.length, true, later) ∧
      later.rest = rest := by
  induction digits generalizing significand count steps cursor with
  | nil =>
      refine ⟨cursor, ?_, stands⟩
      cases steps with
      | zero =>
          rfl
      | succ steps =>
          rw [readDigits, closes.peekDigit?_eq_none stands]
          rfl
  | cons digit digits inductionHypothesis =>
      cases steps with
      | zero =>
          exact absurd enough (by simp)
      | succ steps =>
          have value := (digitValue?_of_isDigit (areDigits digit List.mem_cons_self)).2
          have peeked : peekDigit? cursor = some (digit.toNat - '0'.toNat) := by
            rw [peekDigit?, Cursor.peek?_eq stands]
            exact value
          rw [Nat.ofDigitChars_cons, Nat.mul_comm] at exact
          obtain ⟨later, reads, after⟩ := inductionHypothesis (count + 1)
            (fun other member => areDigits other (List.mem_cons_of_mem _ member)) exact
            (Nat.le_of_succ_le_succ enough) (Cursor.rest_advance stands)
          have kept : ¬greatestSignificand < significand * 10 + (digit.toNat - '0'.toNat) :=
            Nat.not_lt.mpr (Nat.le_trans (le_ofDigitChars digits _) exact)
          refine ⟨later, ?_, after⟩
          rw [readDigits, peeked]
          simp only [kept, if_false]
          rw [reads, Nat.ofDigitChars_cons, Nat.mul_comm 10, List.length_cons, Nat.add_right_comm,
            Nat.add_assoc]

/-- A natural number that is kept exactly is read up to what closes it. -/
theorem readNumber_toString
    {number : Nat}
    {cursor : Cursor}
    {rest : Bytes}
    (negative : Bool)
    (exact : number ≤ greatestSignificand)
    (closes : Closes rest)
    (stands : cursor.rest = Utf8.encode (toString number) ++ rest) :
    ∃ later, readNumber negative cursor = integerNumber negative number later ∧
      later.rest = rest := by
  rw [encode_toString_nat] at stands
  rcases Nat.eq_zero_or_pos number with rfl | positive
  · have after : cursor.advance.rest = rest :=
      Cursor.rest_advance stands
    refine ⟨cursor.advance, ?_, after⟩
    have zero : digitValue? '0'.toUInt8 = some 0 := by
      decide
    have first : cursor.next? = some ('0'.toUInt8, cursor.advance) :=
      Cursor.next?_eq stands
    rw [readNumber, first]
    simp only [zero, closes.peekDigit?_eq_none after]
    exact closes.readAfterInteger_eq after negative 0
  · obtain ⟨first, digits, written, leads⟩ := exists_toDigits positive
    have areDigits (digit : Char) (member : digit ∈ first :: digits) : digit.isDigit = true :=
      Nat.isDigit_of_mem_toDigits (by decide) (by decide) (written ▸ member)
    have value : Nat.ofDigitChars 10 digits (first.toNat - '0'.toNat) = number := by
      have whole := Nat.ofDigitChars_ten_toDigits (n := number)
      rw [written, Nat.ofDigitChars_cons] at whole
      simpa using whole
    rw [written] at stands
    have after := Cursor.rest_advance stands
    have enough : digits.length ≤ cursor.advance.rest.length := by
      simp [after]
    obtain ⟨later, reads, ends⟩ := readDigits_written 1
      (fun digit member => areDigits digit (List.mem_cons_of_mem _ member))
      (value.symm ▸ exact) enough closes after
    obtain ⟨lower, isSuccessor⟩ := Nat.exists_eq_add_one_of_ne_zero (Nat.sub_ne_zero_of_lt leads)
    have firstValue := (digitValue?_of_isDigit (areDigits first List.mem_cons_self)).2
    rw [isSuccessor] at firstValue reads value
    refine ⟨later, ?_, ends⟩
    rw [readNumber, Cursor.next?_eq stands]
    simp only [firstValue, reads, value, if_true]
    exact closes.readAfterInteger_eq ends negative number

/-- What is written for a natural number is read as it. -/
theorem takes_natural {number : Nat} (small : number < 2 ^ 64) :
    Takes (readNumber false) (Utf8.encode (toString number)) (.integer number) := by
  intro cursor rest closes stands
  have exact : number ≤ greatestSignificand := by
    have bound : greatestSignificand = 2 ^ 64 - 1 := by
      decide
    omega
  obtain ⟨later, reads, after⟩ := readNumber_toString false exact closes stands
  exact ⟨later, reads, after⟩

/-- What is written for a negative number after its sign is read as it. -/
theorem takes_negative {number : Nat} (positive : 0 < number) (small : number ≤ 2 ^ 63) :
    Takes (readNumber true) (Utf8.encode (toString number)) (.integer (-(number : Int))) := by
  intro cursor rest closes stands
  have exact : number ≤ greatestSignificand :=
    Nat.le_trans small (by decide)
  obtain ⟨later, reads, after⟩ := readNumber_toString true exact closes stands
  have range : 0 < number ∧ number ≤ twoTo 63 :=
    ⟨positive, small⟩
  refine ⟨later, ?_, after⟩
  rw [reads, integerNumber]
  simp only [Bool.not_true, Bool.false_eq_true, if_false, range, and_self, if_true]

/-- A number that is written begins with a digit. -/
theorem exists_encode_toString (number : Nat) :
    ∃ byte more, Utf8.encode (toString number) = byte :: more ∧ (digitValue? byte).isSome := by
  rw [encode_toString_nat]
  cases written : Nat.toDigits 10 number with
  | nil =>
      exact absurd written Nat.toDigits_ne_nil
  | cons first digits =>
      have isDigit : first.isDigit = true :=
        Nat.isDigit_of_mem_toDigits (by decide) (by decide) (written ▸ List.mem_cons_self)
      refine ⟨first.toUInt8, digits.map Char.toUInt8, rfl, ?_⟩
      rw [(digitValue?_of_isDigit isDigit).2]
      rfl

end CompilePlayground.Json
