import CompilePlayground.Text.Utf8
import Mathlib.Tactic.SplitIfs

namespace CompilePlayground.Text.Utf8

/-!
# Text that is written is read back

Bytes that write a text hold no piece but the characters of the text, so that decoding gives the
text again. Where decoding finds no fault the bytes write the text that it gives.
-/

/-- A byte that continues a character adds its bits to the value. -/
theorem gather_continuation
    {least greatest : UInt8}
    {bits : Nat}
    (value taken following : Nat)
    (rest : Bytes)
    (small : bits < 64)
    (within : least.toNat ≤ bits + 128 ∧ bits + 128 ≤ greatest.toNat) :
    gather least greatest value taken (following + 1) (UInt8.ofNat (bits + 128) :: rest) =
      gather 0x80 0xBF (value * 64 + bits) (taken + 1) following rest := by
  have byte : (UInt8.ofNat (bits + 128)).toNat = bits + 128 := by
    rw [UInt8.toNat_ofNat']
    omega
  have low : (bits + 128) % 64 = bits := by
    omega
  have fits : least ≤ UInt8.ofNat (bits + 128) ∧ UInt8.ofNat (bits + 128) ≤ greatest := by
    rw [UInt8.le_iff_toNat_le, UInt8.le_iff_toNat_le, byte]
    exact within
  rw [gather, if_pos fits, byte, low]

/-- The last continuation of a character makes its value whole. -/
theorem gather_last
    {least greatest : UInt8}
    {bits : Nat}
    {character : Char}
    (value taken : Nat)
    (rest : Bytes)
    (small : bits < 64)
    (within : least.toNat ≤ bits + 128 ∧ bits + 128 ≤ greatest.toNat)
    (whole : value * 64 + bits = character.toNat) :
    gather least greatest value taken 1 (UInt8.ofNat (bits + 128) :: rest) =
      (.scalar character, rest) := by
  rw [gather_continuation value taken 0 rest small within, gather, whole, Char.ofNat_toNat]

/-- A byte begins a character with some bits of its value, and asks for more. -/
def Begins (byte : UInt8) (lead : Lead) (bits : Nat) : Prop :=
  ¬byte < 0x80 ∧ Lead.of? byte = some lead ∧ leadBits byte = bits

instance (byte : UInt8) (lead : Lead) (bits : Nat) : Decidable (Begins byte lead bits) :=
  inferInstanceAs (Decidable (_ ∧ _))

theorem Begins.next
    {byte : UInt8}
    {lead : Lead}
    {bits : Nat}
    (begins : Begins byte lead bits)
    (rest : Bytes) :
    next byte rest = gather lead.least lead.greatest bits 1 lead.following rest := by
  obtain ⟨large, found, value⟩ := begins
  rw [Utf8.next, if_neg large, found, value]

theorem begins_of_two : ∀ bits : Fin 32, 2 ≤ bits.val →
    Begins (UInt8.ofNat (bits + 192)) ⟨1, 0x80, 0xBF⟩ bits := by
  decide

theorem begins_of_three : ∀ bits : Fin 16,
    Begins (UInt8.ofNat (bits + 224))
      ⟨2, if bits.val = 0 then 0xA0 else 0x80, if bits.val = 13 then 0x9F else 0xBF⟩ bits := by
  decide

theorem begins_of_four : ∀ bits : Fin 5,
    Begins (UInt8.ofNat (bits + 240))
      ⟨3, if bits.val = 0 then 0x90 else 0x80, if bits.val = 4 then 0x8F else 0xBF⟩ bits := by
  decide

theorem next_utf8EncodeChar (character : Char) (rest : Bytes) :
    ∃ first more, String.utf8EncodeChar character ++ rest = first :: more ∧
      next first more = (.scalar character, rest) := by
  have valid : character.toNat < 0xD800 ∨ 0xDFFF < character.toNat ∧ character.toNat < 0x110000 :=
    character.valid
  have shape : character.val.toNat = character.toNat :=
    rfl
  unfold String.utf8EncodeChar
  simp only [shape]
  split_ifs with one two three
  · refine ⟨_, _, rfl, ?_⟩
    have value : (UInt8.ofNat character.toNat).toNat = character.toNat := by
      rw [UInt8.toNat_ofNat']
      omega
    have small : UInt8.ofNat character.toNat < 0x80 := by
      rw [UInt8.lt_iff_toNat_lt, value]
      exact Nat.lt_succ_of_le one
    rw [next, if_pos small, value, Char.ofNat_toNat]
    rfl
  · refine ⟨_, _, rfl, ?_⟩
    rw [(begins_of_two ⟨character.toNat / 64 % 32, by omega⟩ (by simp; omega)).next]
    exact gather_last _ _ _ (by omega) ⟨by simp, by simp; omega⟩ (by simp; omega)
  · refine ⟨_, _, rfl, ?_⟩
    rw [(begins_of_three ⟨character.toNat / 4096 % 16, by omega⟩).next]
    refine (gather_continuation _ _ _ _ (by omega) ?_).trans ?_
    · constructor <;> simp only <;> split_ifs <;> simp <;> omega
    · exact gather_last _ _ _ (by omega) ⟨by simp, by simp; omega⟩ (by simp; omega)
  · have four : character.toNat / 262144 % 8 = character.toNat / 262144 := by
      omega
    rw [four]
    refine ⟨_, _, rfl, ?_⟩
    rw [(begins_of_four ⟨character.toNat / 262144, by omega⟩).next]
    refine (gather_continuation _ _ _ _ (by omega) ?_).trans ?_
    · constructor <;> simp only <;> split_ifs <;> simp <;> omega
    refine (gather_continuation _ _ _ _ (by omega) ⟨by simp, by simp; omega⟩).trans ?_
    exact gather_last _ _ _ (by omega) ⟨by simp, by simp; omega⟩ (by simp; omega)

theorem encode_eq (text : String) : encode text = text.toList.flatMap String.utf8EncodeChar := by
  have bytes : text.toUTF8 = text.toList.utf8Encode :=
    String.utf8Encode_toList.symm
  rw [encode, bytes]
  simp [List.utf8Encode]

/-- Only the character of a code below 128 is written with that code. -/
theorem mem_utf8EncodeChar_iff
    {byte : UInt8}
    (small : byte.toNat < 128)
    (character : Char) :
    byte ∈ String.utf8EncodeChar character ↔ character.val.toNat = byte.toNat := by
  have code (number : Nat) : byte = UInt8.ofNat number ↔ number % 256 = byte.toNat := by
    rw [← UInt8.toNat_inj, UInt8.toNat_ofNat', eq_comm]
  unfold String.utf8EncodeChar
  simp only
  split_ifs <;> simp only [List.mem_cons, List.not_mem_nil, code, or_false] <;> omega

/-- The code of a character below 128 is written only for the character. -/
theorem mem_encode_iff
    {byte : UInt8}
    (small : byte.toNat < 128)
    {character : Char}
    (coded : character.val.toNat = byte.toNat)
    (text : String) :
    byte ∈ encode text ↔ character ∈ text.toList := by
  rw [encode_eq, List.mem_flatMap]
  constructor
  · rintro ⟨other, member, written⟩
    have same : other = character := by
      rw [Char.ext_iff, ← UInt32.toNat_inj, (mem_utf8EncodeChar_iff small other).1 written, coded]
    rwa [← same]
  · intro member
    exact ⟨character, member, (mem_utf8EncodeChar_iff small character).2 coded⟩

theorem encode_append (first second : String) :
    encode (first ++ second) = encode first ++ encode second := by
  rw [encode_eq, encode_eq, encode_eq, String.toList_append, List.flatMap_append]

/-- Decoding reads what encoding writes. -/
theorem decodeLossy_encode (text : String) : decodeLossy (encode text) = text := by
  have onto (before : String) (characters : List Char) :
      decodeOnto before (characters.flatMap String.utf8EncodeChar) =
        before ++ String.ofList characters := by
    induction characters generalizing before with
    | nil =>
        simp [decodeOnto]
    | cons character rest inductionHypothesis =>
        obtain ⟨first, more, bytes, read⟩ :=
          next_utf8EncodeChar character (rest.flatMap String.utf8EncodeChar)
        rw [List.flatMap_cons, bytes, decodeOnto, read]
        simp only [Piece.character]
        rw [inductionHypothesis, ← String.toList_inj]
        simp
  rw [decodeLossy, encode_eq, onto]
  simp

/-- A gathered character has begun with a byte that was asked for. -/
theorem byte_of_gather
    {least greatest : UInt8}
    {value taken following : Nat}
    {bytes rest : Bytes}
    {character : Char}
    (gathered : gather least greatest value taken (following + 1) bytes =
      (.scalar character, rest)) :
    ∃ byte more, bytes = byte :: more ∧ least.toNat ≤ byte.toNat ∧ byte.toNat ≤ greatest.toNat ∧
      gather 0x80 0xBF (value * 64 + byte.toNat % 64) (taken + 1) following more =
        (.scalar character, rest) := by
  cases bytes with
  | nil =>
      cases gathered
  | cons byte more =>
      rw [gather] at gathered
      split at gathered
      next within =>
        exact ⟨byte, more, rfl, UInt8.le_iff_toNat_le.1 within.1, UInt8.le_iff_toNat_le.1 within.2,
          gathered⟩
      next =>
        cases gathered

/-- The value of a whole character is told by the bytes that it was gathered from. -/
theorem character_of_gather
    {least greatest : UInt8}
    {value taken : Nat}
    {bytes rest : Bytes}
    {character : Char}
    (gathered : gather least greatest value taken 0 bytes = (.scalar character, rest))
    (valid : value.isValidChar) :
    character.toNat = value ∧ bytes = rest := by
  cases gathered
  refine ⟨?_, rfl⟩
  unfold Char.ofNat
  rw [dif_pos valid]
  rfl

/-- What a first byte asks for by the length of the character that it begins: surrogates and
values that need fewer bytes or are too large are kept out by the second byte. -/
theorem lead_cases
    {first : UInt8}
    {lead : Lead}
    (found : Lead.of? first = some lead) :
    (194 ≤ first.toNat ∧ first.toNat ≤ 223 ∧
      lead.following = 1 ∧ lead.least = 0x80 ∧ lead.greatest = 0xBF) ∨
    (224 ≤ first.toNat ∧ first.toNat ≤ 239 ∧ lead.following = 2 ∧
      128 ≤ lead.least.toNat ∧ lead.greatest.toNat ≤ 191 ∧
      (first.toNat = 224 → 160 ≤ lead.least.toNat) ∧
      (first.toNat = 237 → lead.greatest.toNat ≤ 159)) ∨
    (240 ≤ first.toNat ∧ first.toNat ≤ 244 ∧ lead.following = 3 ∧
      128 ≤ lead.least.toNat ∧ lead.greatest.toNat ≤ 191 ∧
      (first.toNat = 240 → 144 ≤ lead.least.toNat) ∧
      (first.toNat = 244 → lead.greatest.toNat ≤ 143)) := by
  unfold Lead.of? at found
  simp only [UInt8.lt_iff_toNat_lt, UInt8.le_iff_toNat_le, ← UInt8.toNat_inj] at found
  split_ifs at found <;> simp at found <;> subst found <;> simp_all <;> omega

/-- A byte is the one that its number stands for. -/
theorem ofNat_eq
    {number : Nat}
    (byte : UInt8)
    (same : number = byte.toNat) :
    UInt8.ofNat number = byte := by
  rw [same, UInt8.ofNat_toNat]

/-- A character of two bytes. -/
theorem utf8EncodeChar_of_two
    {first second : UInt8}
    {character : Char}
    (begins : 194 ≤ first.toNat ∧ first.toNat ≤ 223)
    (goesOn : 128 ≤ second.toNat ∧ second.toNat ≤ 191)
    (value : character.toNat = first.toNat % 32 * 64 + second.toNat % 64) :
    String.utf8EncodeChar character = [first, second] := by
  have shape : character.val.toNat = character.toNat :=
    rfl
  unfold String.utf8EncodeChar
  simp only [shape]
  rw [if_neg (by omega), if_pos (by omega), ofNat_eq first (by omega),
    ofNat_eq second (by omega)]

/-- A character of three bytes. -/
theorem utf8EncodeChar_of_three
    {first second third : UInt8}
    {character : Char}
    (begins : 224 ≤ first.toNat ∧ first.toNat ≤ 239)
    (goesOn : 128 ≤ second.toNat ∧ second.toNat ≤ 191)
    (long : first.toNat = 224 → 160 ≤ second.toNat)
    (ends : 128 ≤ third.toNat ∧ third.toNat ≤ 191)
    (value : character.toNat =
      (first.toNat % 16 * 64 + second.toNat % 64) * 64 + third.toNat % 64) :
    String.utf8EncodeChar character = [first, second, third] := by
  have shape : character.val.toNat = character.toNat :=
    rfl
  unfold String.utf8EncodeChar
  simp only [shape]
  rw [if_neg (by omega), if_neg (by omega), if_pos (by omega),
    ofNat_eq first (by omega), ofNat_eq second (by omega),
    ofNat_eq third (by omega)]

/-- A character of four bytes. -/
theorem utf8EncodeChar_of_four
    {first second third fourth : UInt8}
    {character : Char}
    (begins : 240 ≤ first.toNat ∧ first.toNat ≤ 244)
    (goesOn : 128 ≤ second.toNat ∧ second.toNat ≤ 191)
    (long : first.toNat = 240 → 144 ≤ second.toNat)
    (further : 128 ≤ third.toNat ∧ third.toNat ≤ 191)
    (ends : 128 ≤ fourth.toNat ∧ fourth.toNat ≤ 191)
    (value : character.toNat =
      ((first.toNat % 8 * 64 + second.toNat % 64) * 64 + third.toNat % 64) * 64
        + fourth.toNat % 64) :
    String.utf8EncodeChar character = [first, second, third, fourth] := by
  have shape : character.val.toNat = character.toNat :=
    rfl
  unfold String.utf8EncodeChar
  simp only [shape]
  rw [if_neg (by omega), if_neg (by omega), if_neg (by omega),
    ofNat_eq first (by omega), ofNat_eq second (by omega),
    ofNat_eq third (by omega), ofNat_eq fourth (by omega)]

/-- A character that was read is written as the bytes that it was read from. -/
theorem eq_of_next
    {first : UInt8}
    {rest remaining : Bytes}
    {character : Char}
    (read : next first rest = (.scalar character, remaining)) :
    first :: rest = String.utf8EncodeChar character ++ remaining := by
  have shape : character.val.toNat = character.toNat :=
    rfl
  have bound := first.toNat_lt
  unfold next at read
  split at read
  next small =>
    rw [UInt8.lt_iff_toNat_lt] at small
    have value : character.toNat = first.toNat ∧ rest = remaining :=
      @character_of_gather 0 0 _ 0 _ _ _ read
        (.inl (Nat.lt_trans bound (by decide)))
    have low : first.toNat ≤ 127 := Nat.le_of_lt_succ small
    unfold String.utf8EncodeChar
    simp only [shape, value, low, if_true, UInt8.ofNat_toNat]
    rfl
  next large =>
    rw [UInt8.lt_iff_toNat_lt] at large
    split at read
    · cases read
    next lead found =>
      rcases lead_cases found with
        ⟨low, high, following, least, greatest⟩ |
          ⟨low, high, following, least, greatest, long, surrogate⟩ |
          ⟨low, high, following, least, greatest, long, large⟩
      · have bits : leadBits first = first.toNat % 32 := by
          simp [leadBits, UInt8.le_iff_toNat_le, high]
        rw [following, bits, least, greatest] at read
        obtain ⟨second, more, rfl, secondLow, secondHigh, gathered⟩ := byte_of_gather read
        simp only [UInt8.reduceToNat] at secondLow secondHigh
        obtain ⟨value, rfl⟩ := character_of_gather gathered (.inl (by omega))
        rw [utf8EncodeChar_of_two ⟨low, high⟩ ⟨secondLow, secondHigh⟩ value]
        rfl
      · have bits : leadBits first = first.toNat % 16 := by
          have more : ¬first.toNat ≤ 223 := by
            omega
          simp [leadBits, UInt8.le_iff_toNat_le, high, more]
        rw [following, bits] at read
        obtain ⟨second, more, rfl, secondLow, secondHigh, gathered⟩ := byte_of_gather read
        obtain ⟨third, more, rfl, thirdLow, thirdHigh, gathered⟩ := byte_of_gather gathered
        simp only [UInt8.reduceToNat] at thirdLow thirdHigh
        obtain ⟨value, rfl⟩ := character_of_gather gathered (by unfold Nat.isValidChar; omega)
        rw [utf8EncodeChar_of_three ⟨low, high⟩ (by omega) (by omega) ⟨thirdLow, thirdHigh⟩ value]
        rfl
      · have bits : leadBits first = first.toNat % 8 := by
          have more : ¬first.toNat ≤ 223 ∧ ¬first.toNat ≤ 239 := by
            omega
          simp [leadBits, UInt8.le_iff_toNat_le, more]
        rw [following, bits] at read
        obtain ⟨second, more, rfl, secondLow, secondHigh, gathered⟩ := byte_of_gather read
        obtain ⟨third, more, rfl, thirdLow, thirdHigh, gathered⟩ := byte_of_gather gathered
        obtain ⟨fourth, more, rfl, fourthLow, fourthHigh, gathered⟩ := byte_of_gather gathered
        simp only [UInt8.reduceToNat] at thirdLow thirdHigh fourthLow fourthHigh
        obtain ⟨value, rfl⟩ := character_of_gather gathered (by unfold Nat.isValidChar; omega)
        rw [utf8EncodeChar_of_four ⟨low, high⟩ (by omega) (by omega) ⟨thirdLow, thirdHigh⟩
          ⟨fourthLow, fourthHigh⟩ value]
        rfl

/-- What is decoded onto a text without a fault is written by the bytes. -/
theorem exists_of_decodeOnto?
    {before text : String}
    {offset : Nat}
    {bytes : Bytes}
    (read : decodeOnto? before offset bytes = .ok text) :
    ∃ characters, text = before ++ String.ofList characters ∧
      bytes = characters.flatMap String.utf8EncodeChar := by
  fun_induction decodeOnto? before offset bytes with
  | case1 before offset =>
      cases read
      exact ⟨[], by simp, rfl⟩
  | case2 before offset first rest value scalar inductionHypothesis =>
      obtain ⟨characters, same, written⟩ := inductionHypothesis read
      refine ⟨value :: characters, ?_, ?_⟩
      · rw [same, ← String.toList_inj]
        simp
      · rw [eq_of_next (Prod.ext scalar rfl), List.flatMap_cons]
        exact congrArg (String.utf8EncodeChar value ++ ·) written
  | case3 | case4 =>
      cases read

/-- What a text writes is decoded without a fault. -/
theorem decodeOnto?_flatMap (before : String) (offset : Nat) (characters : List Char) :
    decodeOnto? before offset (characters.flatMap String.utf8EncodeChar) =
      .ok (before ++ String.ofList characters) := by
  induction characters generalizing before offset with
  | nil =>
      simp [decodeOnto?]
  | cons character rest inductionHypothesis =>
      obtain ⟨first, more, bytes, read⟩ :=
        next_utf8EncodeChar character (rest.flatMap String.utf8EncodeChar)
      rw [List.flatMap_cons, bytes, decodeOnto?, read]
      simp only [inductionHypothesis, Except.ok.injEq]
      rw [← String.toList_inj]
      simp

/-- Bytes are decoded without a fault exactly when they write the text. -/
theorem decode?_eq_ok_iff {bytes : Bytes} {text : String} :
    decode? bytes = .ok text ↔ bytes = encode text := by
  constructor
  · intro read
    obtain ⟨characters, rfl, rfl⟩ := exists_of_decodeOnto? read
    rw [encode_eq]
    simp
  · rintro rfl
    rw [decode?, encode_eq, decodeOnto?_flatMap]
    simp

/-- Lossy decoding adds characters, which are what the bytes write unless one of them stands for
bytes that are no text. -/
theorem exists_decodeOnto (before : String) (bytes : Bytes) :
    ∃ characters, decodeOnto before bytes = before ++ String.ofList characters ∧
      (replacement ∉ characters → bytes = characters.flatMap String.utf8EncodeChar) := by
  fun_induction decodeOnto before bytes with
  | case1 before =>
      exact ⟨[], by simp, fun _ => rfl⟩
  | case2 before first rest inductionHypothesis =>
      obtain ⟨characters, same, written⟩ := inductionHypothesis
      refine ⟨(next first rest).1.character :: characters, ?_, ?_⟩
      · rw [same, ← String.toList_inj]
        simp
      · intro whole
        rw [List.mem_cons, not_or] at whole
        cases piece : (next first rest).1 with
        | scalar value =>
            rw [eq_of_next (Prod.ext piece rfl), List.flatMap_cons]
            exact congrArg (String.utf8EncodeChar value ++ ·) (written whole.2)
        | malformed length =>
            rw [piece] at whole
            exact absurd rfl whole.1
        | unfinished =>
            rw [piece] at whole
            exact absurd rfl whole.1

/-- Bytes that are decoded to a text without replacements write the text. -/
theorem eq_encode_of_decodeLossy
    {bytes : Bytes}
    {text : String}
    (decoded : decodeLossy bytes = text)
    (whole : replacement ∉ text.toList) :
    bytes = encode text := by
  obtain ⟨characters, same, written⟩ := exists_decodeOnto "" bytes
  rw [decodeLossy, same] at decoded
  subst decoded
  rw [encode_eq, written (by simpa using whole)]
  simp

end CompilePlayground.Text.Utf8
