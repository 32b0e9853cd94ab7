import CompilePlayground.Json.Value

namespace CompilePlayground.Json

/-!
# Writing JSON

Values are written without white space. In a string the quote, the backslash and
the controls are escaped, the common ones by a letter. A double is written with the
fewest digits that read back: as a plain decimal from `1e-5` up to below `1e16`,
otherwise with an exponent and its sign.
-/

/-- A hexadecimal digit in lower case. -/
def hexDigit (value : Nat) : Char :=
  if value < 10 then Char.ofNat (48 + value) else Char.ofNat (87 + value)

/-- A character inside a JSON string. -/
def escapeCharacter (character : Char) : List Char :=
  match character with
  | '"' => ['\\', '"']
  | '\\' => ['\\', '\\']
  | '\n' => ['\\', 'n']
  | '\r' => ['\\', 'r']
  | '\t' => ['\\', 't']
  | '\x08' => ['\\', 'b']
  | '\x0c' => ['\\', 'f']
  | other =>
      if other.toNat < 0x20 then
        ['\\', 'u', '0', '0', hexDigit (other.toNat / 16), hexDigit (other.toNat % 16)]
      else
        [other]

/-- Write a string onto the text before it. -/
def writeString (text : String) (written : String) : String :=
  (text.foldl
      (fun written character => (escapeCharacter character).foldl String.push written)
      (written.push '"')).push '"'

/-- How doubles are written: the exponents, of the leading digit, of plain
decimals. -/
structure DoubleFormat where
  leastPlain : Int
  greatestPlain : Int
  deriving Repr, DecidableEq

/-- Plain decimals reach from `1e-5` up to below `1e16`. -/
def doubleFormat : DoubleFormat :=
  ⟨-5, 15⟩

/-- A positive decimal with digits before and after the point. -/
def plainDecimal (digits : List Char) (exponent : Int) : List Char :=
  if 0 ≤ exponent then
    digits ++ List.replicate exponent.toNat '0' ++ ['.', '0']
  else
    let places := (-exponent).toNat
    if places < digits.length then
      digits.take (digits.length - places) ++ ['.'] ++
        digits.drop (digits.length - places)
    else
      ['0', '.'] ++ List.replicate (places - digits.length) '0' ++ digits

/-- A positive decimal with one digit before the point and a signed exponent. -/
def scientificDecimal (digits : List Char) (leading : Int) : List Char :=
  let mantissa :=
    match digits with
    | [] => []
    | [only] => [only]
    | first :: rest => first :: '.' :: rest
  let sign := if leading < 0 then '-' else '+'
  mantissa ++ ['e', sign] ++ Nat.toDigits 10 leading.natAbs

/-- The text of a double's magnitude. -/
def writeMagnitude (magnitude : Decimal.Binary64) : List Char :=
  if magnitude.significand = 0 then
    ['0', '.', '0']
  else
    let shortest := Decimal.Shortest.ofDouble magnitude
    let digits := Nat.toDigits 10 shortest.digits
    let leading := shortest.exponent + (digits.length - 1 : Int)
    if doubleFormat.leastPlain ≤ leading ∧ leading ≤ doubleFormat.greatestPlain then
      plainDecimal digits shortest.exponent
    else
      scientificDecimal digits leading

/-- The text of a number. -/
def Number.write : Number → String
  | .integer value => toString value
  | .double negative magnitude =>
      String.ofList
        (if negative then '-' :: writeMagnitude magnitude
         else writeMagnitude magnitude)

mutual

/-- Write a value onto the text before it. -/
def Value.writeOnto (written : String) : Value → String
  | .null => written ++ "null"
  | .boolean true => written ++ "true"
  | .boolean false => written ++ "false"
  | .number value => written ++ value.write
  | .text value => writeString value written
  | .list items => (writeItems true (written.push '[') items).push ']'
  | .object members => (writeMembers true (written.push '\x7b') members).push '\x7d'

/-- Write the items of a list, with commas between them. -/
def writeItems (isFirst : Bool) (written : String) : List Value → String
  | [] => written
  | item :: rest =>
      let written := if isFirst then written else written.push ','
      writeItems false (item.writeOnto written) rest

/-- Write the members of an object, with commas between them. -/
def writeMembers (isFirst : Bool) (written : String) : List (String × Value) → String
  | [] => written
  | (key, value) :: rest =>
      let written := if isFirst then written else written.push ','
      writeMembers false (value.writeOnto ((writeString key written).push ':')) rest

end

/-- The compact text of a value. -/
def Value.write (value : Value) : String :=
  value.writeOnto ""

end CompilePlayground.Json
