import CompilePlayground.Decimal.Power
import CompilePlayground.Http.Message

namespace CompilePlayground.Http

/-!
# Ranges of bytes

A client may ask for parts of a file: `bytes=` is followed by ranges with commas between
them. A range names its first and its last byte, its first byte only, or how many bytes it
takes from the end.
-/

/-- A range as it is asked for. -/
inductive Wanted where
  | since (first : Nat)
  | between (first last : Nat)
  | last (count : Nat)
  deriving Repr, DecidableEq

/-- A range of bytes that are there. -/
structure Extent where
  first : Nat
  last : Nat
  deriving Repr, DecidableEq

namespace Range

/-- The least number that is too great for a place in a file. -/
def placeLimit : Nat := twoTo 64

/-- A place in a file, in decimal and without zeros before it. -/
def readPlace? (digits : List Char) : Option Nat :=
  match digits with
  | '0' :: _ :: _ => none
  | _ => (Network.readDecimal? digits).filter (· < placeLimit)

/-- One range. -/
def readWanted? (text : List Char) : Option Wanted :=
  match Network.partsAt '-' text with
  | [[], count] => (readPlace? count).bind fun count =>
      if count = 0 then none else some (.last count)
  | [first, []] => (readPlace? first).map .since
  | [first, last] => do
    let first ← readPlace? first
    let last ← readPlace? last
    return .between first last
  | _ => none

/-- The sign of the unit that ranges are counted in. -/
def unit : List Char := ['b', 'y', 't', 'e', 's', '=']

/-- A range that may have one blank before it where it is not the first. -/
def readLater? (text : List Char) : Option Wanted :=
  match text with
  | ' ' :: rest => readWanted? rest
  | _ => readWanted? text

/-- The ranges that a text asks for. -/
def read? (text : List Char) : Option (List Wanted) :=
  if unit.isPrefixOf text then
    match Network.partsAt ',' (text.drop unit.length) with
    | [] => none
    | first :: later => do
      let first ← readWanted? first
      let later ← later.mapM readLater?
      return first :: later
  else
    none

/-- The bytes of a range in a file of some size. The end of a range may lie beyond that of
the file. -/
def Wanted.extent? (size : Nat) : Wanted → Option Extent
  | .since first => some ⟨first, size - 1⟩
  | .between first last => some ⟨first, min last (size - 1)⟩
  | .last count => if count ≤ size then some ⟨size - count, size - 1⟩ else none

/-- Whether two ranges have a byte in common. -/
def overlaps (one other : Extent) : Bool :=
  one.first ≤ other.last && other.first ≤ one.last

/-- Whether no two of some ranges have a byte in common. -/
def areApart : List Extent → Bool
  | [] => true
  | one :: rest => rest.all (fun other => !overlaps one other) && areApart rest

/-- The ranges that a text asks for in a file of some size, as long as all of them are there
and no byte is asked for twice. -/
def resolve? (size : Nat) (text : String) : Option (List Extent) := do
  let wanted ← read? text.toList
  let extents ← wanted.mapM (Wanted.extent? size)
  if extents.all (fun extent => extent.first ≤ extent.last) && areApart extents then
    return extents
  else
    none

/-- The bytes of a range. -/
def slice (extent : Extent) (bytes : Bytes) : Bytes :=
  (bytes.drop extent.first).take (extent.last - extent.first + 1)

end Range

end CompilePlayground.Http
