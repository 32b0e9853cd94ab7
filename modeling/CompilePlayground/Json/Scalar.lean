import CompilePlayground.Decimal.Power
import CompilePlayground.Json.Cursor

namespace CompilePlayground.Json

/-!
# Words, strings and numbers

The readers of scalar values start after the byte that decides which of them is
meant: after the first letter of a word, after the opening quote of a string,
after the minus sign of a number.
-/

/-- Read the remaining letters of a word. -/
def readWord : Bytes → Cursor → Outcome Unit
  | [], cursor => .ok ((), cursor)
  | letter :: letters, cursor =>
      match cursor.next? with
      | none => failAt cursor .endInValue
      | some (byte, later) =>
          if byte = letter then readWord letters later
          else failAt later .expectedWord

/-- The value of a hexadecimal digit. -/
def hexValue? (byte : UInt8) : Option Nat :=
  if 0x30 ≤ byte ∧ byte ≤ 0x39 then some (byte.toNat - 0x30)
  else if 0x41 ≤ byte ∧ byte ≤ 0x46 then some (byte.toNat - 0x37)
  else if 0x61 ≤ byte ∧ byte ≤ 0x66 then some (byte.toNat - 0x57)
  else none

/-- Read the four digits of an escape by code. -/
def readHexEscape (cursor : Cursor) : Outcome Nat :=
  match cursor.rest with
  | first :: second :: third :: fourth :: _ =>
      let later := cursor.advance.advance.advance.advance
      match hexValue? first, hexValue? second, hexValue? third, hexValue? fourth with
      | some a, some b, some c, some d => .ok (((a * 16 + b) * 16 + c) * 16 + d, later)
      | _, _, _, _ => failAt later .badEscape
  | _ => failAt cursor.finish .endInString

/-- A code unit that begins a surrogate pair. -/
def isHighSurrogate (unit : Nat) : Bool :=
  0xD800 ≤ unit && unit ≤ 0xDBFF

/-- A code unit that ends a surrogate pair. -/
def isLowSurrogate (unit : Nat) : Bool :=
  0xDC00 ≤ unit && unit ≤ 0xDFFF

/-- Read one given byte of the second half of a surrogate pair. -/
def readPairByte (wanted : UInt8) (cursor : Cursor) : Outcome Unit :=
  match cursor.next? with
  | none => failAt cursor .endInString
  | some (byte, later) =>
      if byte = wanted then .ok ((), later) else failAt later .unfinishedEscape

/-- Read the second half of a surrogate pair, after its first code unit. -/
def readLowSurrogate (high : Nat) (cursor : Cursor) : Outcome Char :=
  andThen (readPairByte 0x5C cursor) fun _ cursor =>
    andThen (readPairByte 0x75 cursor) fun _ cursor =>
      andThen (readHexEscape cursor) fun low cursor =>
        if isLowSurrogate low then
          .ok (Char.ofNat (0x10000 + (high - 0xD800) * 0x400 + (low - 0xDC00)), cursor)
        else
          failAt cursor .loneSurrogate

/-- Read the code point of an escape by code, a surrogate pair included. -/
def readCodePoint (cursor : Cursor) : Outcome Char :=
  andThen (readHexEscape cursor) fun unit cursor =>
    if isLowSurrogate unit then failAt cursor .loneSurrogate
    else if isHighSurrogate unit then readLowSurrogate unit cursor
    else .ok (Char.ofNat unit, cursor)

/-- The byte that a one-letter escape stands for. -/
def escapedByte? (letter : UInt8) : Option UInt8 :=
  if letter = 0x22 ∨ letter = 0x5C ∨ letter = 0x2F then some letter
  else if letter = 0x62 then some 0x08
  else if letter = 0x66 then some 0x0C
  else if letter = 0x6E then some 0x0A
  else if letter = 0x72 then some 0x0D
  else if letter = 0x74 then some 0x09
  else none

/-- Read what follows a backslash: the bytes that it stands for. -/
def readEscape (cursor : Cursor) : Outcome Bytes :=
  match cursor.next? with
  | none => failAt cursor .endInString
  | some (letter, later) =>
      if letter = 0x75 then
        andThen (readCodePoint later) fun character cursor =>
          .ok (Text.Utf8.encode (String.singleton character), cursor)
      else
        match escapedByte? letter with
        | some byte => .ok ([byte], later)
        | none => failAt later .badEscape

/-- Read the bytes of a string up to its closing quote. `read` holds those so far, the
last one first; every step takes a byte at least, so that `steps` may be the length
of the input. -/
def readStringBytes (read : Bytes) : Nat → Cursor → Outcome Bytes
  | 0, cursor => failAt cursor .endInString
  | steps + 1, cursor =>
      match cursor.next? with
      | none => failAt cursor .endInString
      | some (byte, later) =>
          if byte = 0x22 then
            .ok (read.reverse, later)
          else if byte = 0x5C then
            match readEscape later with
            | .ok (bytes, later) => readStringBytes (bytes.reverse ++ read) steps later
            | .error fault => .error fault
          else if byte < 0x20 then
            failAt later .controlInString
          else
            readStringBytes (byte :: read) steps later

/-- Read a string after its opening quote. -/
def readString (cursor : Cursor) : Outcome String :=
  andThen (readStringBytes [] (cursor.rest.length + 1) cursor) fun bytes later =>
    match Text.Utf8.decode? bytes with
    | .ok text => .ok (text, later)
    | .error _ => failAt later .badCodePoint

/-- The value of a decimal digit. -/
def digitValue? (byte : UInt8) : Option Nat :=
  if 0x30 ≤ byte ∧ byte ≤ 0x39 then some (byte.toNat - 0x30) else none

/-- The digit at the cursor. -/
def peekDigit? (cursor : Cursor) : Option Nat :=
  cursor.peek?.bind digitValue?

/-- The greatest significand that is kept exactly. -/
def greatestSignificand : Nat := twoTo 64 - 1

/-- Skip the digits at the cursor, and count them. -/
def skipDigits (count : Nat) : Nat → Cursor → Nat × Cursor
  | 0, cursor => (count, cursor)
  | steps + 1, cursor =>
      match peekDigit? cursor with
      | some _ => skipDigits (count + 1) steps cursor.advance
      | none => (count, cursor)

/-- Read digits onto a significand, as long as it is kept exactly; the count of the
digits taken, and whether all were. -/
def readDigits
    (significand count : Nat) :
    Nat →
    Cursor →
    Nat × Nat × Bool × Cursor
  | 0, cursor => (significand, count, true, cursor)
  | steps + 1, cursor =>
      match peekDigit? cursor with
      | none => (significand, count, true, cursor)
      | some digit =>
          if greatestSignificand < significand * 10 + digit then
            (significand, count, false, cursor)
          else
            readDigits (significand * 10 + digit) (count + 1) steps cursor.advance

/-- The greatest power of ten by which a double is scaled in one step. -/
def greatestPower : Nat := 308

/-- Divide by a power of ten in steps of at most `10 ^ 308`, until nothing is left. -/
def divideByPower
    (value : Decimal.Binary64)
    (power : Nat) :
    Nat →
    Option Decimal.Binary64
  | 0 => some value
  | steps + 1 => do
      if power ≤ greatestPower then
        let divisor ← Decimal.Binary64.ofNat? (tenTo power)
        value.div? divisor
      else if value.significand = 0 then
        some value
      else
        let divisor ← Decimal.Binary64.ofNat? (tenTo greatestPower)
        let quotient ← value.div? divisor
        divideByPower quotient (power - greatestPower) steps

/-- The double that a significand and a decimal exponent give; none out of range. The
significand is rounded before it is scaled. -/
def doubleOfParts? (significand : Nat) (exponent : Int) : Option Decimal.Binary64 := do
  let value ← Decimal.Binary64.ofNat? significand
  if 0 ≤ exponent then
    if exponent.toNat ≤ greatestPower then
      let factor ← Decimal.Binary64.ofNat? (tenTo exponent.toNat)
      value.mul? factor
    else if value.significand = 0 then
      some value
    else
      none
  else
    divideByPower value (-exponent).toNat 4

/-- The number that a sign, a significand and a decimal exponent give. -/
def finishDouble
    (negative : Bool)
    (significand : Nat)
    (exponent : Int)
    (cursor : Cursor) :
    Outcome Number :=
  match doubleOfParts? significand exponent with
  | some magnitude => .ok (.double negative magnitude, cursor)
  | none => failAt cursor .numberOutOfRange

/-- The greatest exponent that is read exactly. -/
def greatestExponent : Nat := twoTo 31 - 1

/-- Read the digits of an exponent; none when it is greater than is read exactly. The
cursor then stands after the digit that went too far. -/
def readExponentDigits (value : Nat) : Nat → Cursor → Option Nat × Cursor
  | 0, cursor => (some value, cursor)
  | steps + 1, cursor =>
      match peekDigit? cursor with
      | none => (some value, cursor)
      | some digit =>
          if greatestExponent < value * 10 + digit then
            (none, cursor.advance)
          else
            readExponentDigits (value * 10 + digit) steps cursor.advance

/-- Read an exponent, from its letter on. -/
def readExponent
    (negative : Bool)
    (significand : Nat)
    (exponent : Int)
    (cursor : Cursor) :
    Outcome Number :=
  let afterLetter := cursor.advance
  let (raises, afterSign) :=
    match afterLetter.peek? with
    | some 0x2B => (true, afterLetter.advance)
    | some 0x2D => (false, afterLetter.advance)
    | _ => (true, afterLetter)
  match afterSign.next? with
  | none => failAt afterSign .endInValue
  | some (byte, later) =>
      match digitValue? byte with
      | none => failAt later .badNumber
      | some first =>
          match readExponentDigits first later.rest.length later with
          | (some value, later) =>
              finishDouble negative significand
                (if raises then exponent + value else exponent - value) later
          | (none, later) =>
              if significand ≠ 0 ∧ raises then
                failAt later .numberOutOfRange
              else
                .ok (.double negative .zero, (skipDigits 0 later.rest.length later).2)

/-- Read the rest of a number whose digits are all taken. -/
def readAfterDigits
    (negative : Bool)
    (significand : Nat)
    (exponent : Int)
    (cursor : Cursor) :
    Outcome Number :=
  match cursor.peek? with
  | some 0x65 | some 0x45 => readExponent negative significand exponent cursor
  | _ => finishDouble negative significand exponent cursor

/-- Read a fraction, from the point on. -/
def readFraction
    (negative : Bool)
    (significand : Nat)
    (exponent : Int)
    (cursor : Cursor) :
    Outcome Number :=
  let afterPoint := cursor.advance
  let (significand, count, complete, later) :=
    readDigits significand 0 afterPoint.rest.length afterPoint
  if !complete then
    readAfterDigits negative significand (exponent - count)
      (skipDigits 0 later.rest.length later).2
  else if count = 0 then
    match later.peek? with
    | some _ => failPeek later .badNumber
    | none => failPeek later .endInValue
  else
    readAfterDigits negative significand (exponent - count) later

/-- The number without fraction or exponent that a sign and a significand give. The
negative zero and what is below `-2 ^ 63` are doubles. -/
def integerNumber (negative : Bool) (significand : Nat) (cursor : Cursor) : Outcome Number :=
  if !negative then
    .ok (.integer significand, cursor)
  else if 0 < significand ∧ significand ≤ twoTo 63 then
    .ok (.integer (-(significand : Int)), cursor)
  else
    finishDouble true significand 0 cursor

/-- Read the rest of a number after its integer digits. -/
def readAfterInteger
    (negative : Bool)
    (significand : Nat)
    (cursor : Cursor) :
    Outcome Number :=
  match cursor.peek? with
  | some 0x2E => readFraction negative significand 0 cursor
  | some 0x65 | some 0x45 => readExponent negative significand 0 cursor
  | _ => integerNumber negative significand cursor

/-- Read a number from its first digit on. -/
def readNumber (negative : Bool) (cursor : Cursor) : Outcome Number :=
  match cursor.next? with
  | none => failAt cursor .endInValue
  | some (byte, later) =>
      match digitValue? byte with
      | none => failAt later .badNumber
      | some 0 =>
          match peekDigit? later with
          | some _ => failPeek later .badNumber
          | none => readAfterInteger negative 0 later
      | some first =>
          let (significand, _, complete, later) :=
            readDigits first 1 later.rest.length later
          if complete then
            readAfterInteger negative significand later
          else
            let (skipped, later) := skipDigits 0 later.rest.length later
            match later.peek? with
            | some 0x2E => readFraction negative significand skipped later
            | _ => readAfterDigits negative significand skipped later

end CompilePlayground.Json
