namespace CompilePlayground

/-- A sequence of bytes: a file's content, a request's body, a path as it is given. -/
abbrev Bytes := List UInt8

namespace Text.Utf8

/-!
# Reading text from bytes

Bytes are read as UTF-8 one `Piece` at a time. A piece is a scalar value, a
maximal part that no continuation could have completed, or a well-formed
beginning that the end of the input cuts off. `decodeLossy` puts one U+FFFD
for each piece that is no scalar value; `decode?` stops at the first of them
and says where it stands.
-/

/-- What stands at the front of a byte sequence. -/
inductive Piece where
  | scalar (value : Char)
  | malformed (length : Nat)
  | unfinished
  deriving Repr, DecidableEq

/-- The character that stands in place of bytes that are no text. -/
def replacement : Char := '\uFFFD'

/-- The piece as one character of lossily decoded text. -/
def Piece.character : Piece → Char
  | .scalar value => value
  | .malformed _ => replacement
  | .unfinished => replacement

/-- What a first byte asks for: the count of bytes to follow, and the least and
the greatest value of the next one. -/
structure Lead where
  following : Nat
  least : UInt8
  greatest : UInt8
  deriving Repr, DecidableEq

/-- The lead that a byte above ASCII gives, if it can begin a scalar value. -/
def Lead.of? (first : UInt8) : Option Lead :=
  if first < 0xC2 then none
  else if first ≤ 0xDF then some ⟨1, 0x80, 0xBF⟩
  else if first = 0xE0 then some ⟨2, 0xA0, 0xBF⟩
  else if first = 0xED then some ⟨2, 0x80, 0x9F⟩
  else if first ≤ 0xEF then some ⟨2, 0x80, 0xBF⟩
  else if first = 0xF0 then some ⟨3, 0x90, 0xBF⟩
  else if first ≤ 0xF3 then some ⟨3, 0x80, 0xBF⟩
  else if first = 0xF4 then some ⟨3, 0x80, 0x8F⟩
  else none

/-- The bits of the value that a first byte above ASCII carries. -/
def leadBits (first : UInt8) : Nat :=
  if first ≤ 0xDF then first.toNat % 32
  else if first ≤ 0xEF then first.toNat % 16
  else first.toNat % 8

/-- Gather the bytes that are still to follow. The next one lies between `least` and
`greatest`; `value` and `taken` tell what the bytes so far amount to and how many
they are. -/
def gather
    (least greatest : UInt8)
    (value taken : Nat) :
    Nat → Bytes → Piece × Bytes
  | 0, rest => (.scalar (Char.ofNat value), rest)
  | _ + 1, [] => (.unfinished, [])
  | following + 1, byte :: rest =>
      if least ≤ byte ∧ byte ≤ greatest then
        gather 0x80 0xBF (value * 64 + byte.toNat % 64) (taken + 1) following rest
      else
        (.malformed taken, byte :: rest)

/-- The piece that begins with `first`, and the bytes after it. -/
def next (first : UInt8) (rest : Bytes) : Piece × Bytes :=
  if first < 0x80 then
    (.scalar (Char.ofNat first.toNat), rest)
  else
    match Lead.of? first with
    | none => (.malformed 1, rest)
    | some lead =>
        gather lead.least lead.greatest (leadBits first) 1 lead.following rest

/-- Gathering never hands back more than it was given. -/
theorem gather_length_le
    (least greatest : UInt8)
    (value taken following : Nat)
    (rest : Bytes) :
    (gather least greatest value taken following rest).2.length ≤ rest.length := by
  induction following generalizing least greatest value taken rest with
  | zero => simp [gather]
  | succ following inductionHypothesis =>
      cases rest with
      | nil => simp [gather]
      | cons byte rest =>
          simp only [gather]
          split
          · exact Nat.le_succ_of_le (inductionHypothesis ..)
          · simp

/-- A piece takes its first byte at least. -/
theorem next_length_le (first : UInt8) (rest : Bytes) :
    (next first rest).2.length ≤ rest.length := by
  unfold next
  split
  · simp
  · split
    · simp
    · exact gather_length_le ..

/-- Decode onto a text that is already there. -/
def decodeOnto (text : String) (bytes : Bytes) : String :=
  match bytes with
  | [] => text
  | first :: rest =>
      decodeOnto (text.push (next first rest).1.character) (next first rest).2
termination_by bytes.length
decreasing_by
  have := next_length_le first rest
  simp only [List.length_cons]
  omega

/-- The text that bytes hold, one U+FFFD standing for every piece that is none. -/
def decodeLossy (bytes : Bytes) : String :=
  decodeOnto "" bytes

/-- Where bytes stop being text: the length of the text before, and the length of
the malformed part, if the input does not just end too early. -/
structure Fault where
  validUpTo : Nat
  length? : Option Nat
  deriving Repr, DecidableEq

/-- The words for a fault. -/
def Fault.message (fault : Fault) : String :=
  match fault.length? with
  | some length =>
      "invalid utf-8 sequence of " ++ toString length ++
        " bytes from index " ++ toString fault.validUpTo
  | none =>
      "incomplete utf-8 byte sequence from index " ++ toString fault.validUpTo

/-- Decode onto a text that took `offset` bytes, up to the first fault. -/
def decodeOnto?
    (text : String)
    (offset : Nat)
    (bytes : Bytes) :
    Except Fault String :=
  match bytes with
  | [] => .ok text
  | first :: rest =>
      match (next first rest).1 with
      | .scalar value =>
          decodeOnto? (text.push value)
            (offset + value.utf8Size)
            (next first rest).2
      | .malformed length => .error ⟨offset, some length⟩
      | .unfinished => .error ⟨offset, none⟩
termination_by bytes.length
decreasing_by
  have := next_length_le first rest
  simp only [List.length_cons]
  omega

/-- The text that bytes hold, or the first place where they hold none. -/
def decode? (bytes : Bytes) : Except Fault String :=
  decodeOnto? "" 0 bytes

/-- The bytes that write a text. -/
def encode (text : String) : Bytes :=
  text.toUTF8.data.toList

end Text.Utf8

end CompilePlayground
