import CompilePlayground.Text.Blank

namespace CompilePlayground.Network

/-!
# Internet addresses

An `Address` names a machine on a network, an `Endpoint` also a port of it. Addresses are read
as they are commonly written: four numbers below 256 with dots between them, or eight groups
of hexadecimal digits with colons, where `::` once stands for groups that are zero and the
last two groups may be written as four numbers.
-/

/-- The address of a machine: four bytes, or eight groups of two bytes. -/
inductive Address where
  | four (bytes : List Nat)
  | six (groups : List Nat)
  deriving Repr, DecidableEq

/-- A port of a machine. -/
structure Endpoint where
  address : Address
  port : Nat
  deriving Repr, DecidableEq

/-- The parts of a text between the places where a character stands. -/
def partsAt (separator : Char) : List Char → List (List Char)
  | [] => [[]]
  | character :: rest =>
    if character = separator then
      [] :: partsAt separator rest
    else
      match partsAt separator rest with
      | [] => [[character]]
      | part :: more => (character :: part) :: more

/-- The texts before and after the first place where two characters stand together. -/
def splitAtPair (first second : Char) : List Char → Option (List Char × List Char)
  | [] => none
  | [_] => none
  | one :: two :: rest =>
    if one = first ∧ two = second then
      some ([], rest)
    else
      (splitAtPair first second (two :: rest)).map fun (before, after) =>
        (one :: before, after)

/-- The number that decimal digits write, if there are any and nothing else. -/
def readDecimal? (digits : List Char) : Option Nat :=
  if digits.isEmpty || !digits.all Char.isDigit then none
  else some (digits.foldl (fun value digit => value * 10 + (digit.toNat - '0'.toNat)) 0)

/-- The value of a hexadecimal digit. -/
def hexValue? (digit : Char) : Option Nat :=
  if digit.isDigit then some (digit.toNat - '0'.toNat)
  else if 'a' ≤ digit ∧ digit ≤ 'f' then some (digit.toNat - 'a'.toNat + 10)
  else if 'A' ≤ digit ∧ digit ≤ 'F' then some (digit.toNat - 'A'.toNat + 10)
  else none

/-- The number that up to four hexadecimal digits write. -/
def readGroup? (digits : List Char) : Option Nat :=
  if digits.isEmpty || 4 < digits.length then none
  else digits.foldlM (fun value digit => (hexValue? digit).map (value * 16 + ·)) 0

/-- A byte in decimal, without zeros before it. -/
def readByte? (digits : List Char) : Option Nat :=
  match digits with
  | '0' :: _ :: _ => none
  | _ => (readDecimal? digits).filter (· < 256)

/-- Four bytes with dots between them. -/
def readBytes? (text : List Char) : Option (List Nat) :=
  let parts := partsAt '.' text
  if parts.length = 4 then parts.mapM readByte? else none

/-- The groups of a list of parts. The last part may be four bytes, which make two groups. -/
def readGroups? : List (List Char) → Option (List Nat)
  | [] => some []
  | [last] =>
    match readBytes? last with
    | some [a, b, c, d] => some [a * 256 + b, c * 256 + d]
    | _ => (readGroup? last).map ([·])
  | part :: rest => do
    let group ← readGroup? part
    let groups ← readGroups? rest
    return group :: groups

/-- The groups that stand on one side of `::`. -/
def readSide? (text : List Char) (mayEndInBytes : Bool) : Option (List Nat) :=
  if text.isEmpty then some []
  else if mayEndInBytes then readGroups? (partsAt ':' text)
  else (partsAt ':' text).mapM readGroup?

/-- Eight groups with colons between them. -/
def readEight? (text : List Char) : Option (List Nat) :=
  match splitAtPair ':' ':' text with
  | none => (readGroups? (partsAt ':' text)).filter (·.length = 8)
  | some (before, after) => do
    let front ← readSide? before false
    let back ← readSide? after true
    if front.length + back.length ≤ 7 then
      return front ++ List.replicate (8 - front.length - back.length) 0 ++ back
    else
      none

/-- The address that a text writes. -/
def Address.read? (text : List Char) : Option Address :=
  match readBytes? text with
  | some bytes => some (.four bytes)
  | none => (readEight? text).map .six

/-- A port number. -/
def readPort? (text : List Char) : Option Nat :=
  (readDecimal? text).filter (· < 65536)

/-- An address between brackets, where the number of an interface may follow it. -/
def readBracketed? (inside : List Char) : Option Address :=
  let address := inside.takeWhile (· ≠ '%')
  match inside.drop address.length with
  | [] => (readEight? address).map .six
  | _ :: interface =>
    if (readDecimal? interface).any (· < 4294967296) then (readEight? address).map .six
    else none

/-- The endpoint that a text writes: an address, a colon and a port. An address with colons
stands between brackets. -/
def Endpoint.read? (text : List Char) : Option Endpoint :=
  match text with
  | '[' :: rest =>
    let inside := rest.takeWhile (· ≠ ']')
    match rest.drop inside.length with
    | ']' :: ':' :: port => do
      let address ← readBracketed? inside
      let port ← readPort? port
      return ⟨address, port⟩
    | _ => none
  | _ =>
    let before := text.takeWhile (· ≠ ':')
    match text.drop before.length with
    | ':' :: port => do
      let bytes ← readBytes? before
      let port ← readPort? port
      return ⟨.four bytes, port⟩
    | _ => none

end CompilePlayground.Network
