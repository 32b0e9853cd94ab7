import CompilePlayground.Decimal.Shortest

namespace CompilePlayground.Json

/-!
# JSON values

Integers between `-2 ^ 63` and `2 ^ 64 - 1` are kept as they are; every other
number is a double. The members of an object are in the order of their keys, and
a key occurs once.
-/

/-- A number of a JSON text. -/
inductive Number where
  | integer (value : Int)
  | double (negative : Bool) (magnitude : Decimal.Binary64)
  deriving Repr, DecidableEq

/-- A JSON value. -/
inductive Value where
  | null
  | boolean (value : Bool)
  | number (value : Number)
  | text (value : String)
  | list (items : List Value)
  | object (members : List (String × Value))
  deriving Repr, Inhabited

/-- Put a member in the place of its key; the value of a key that is there already
is replaced. -/
def insertMember
    (key : String)
    (value : Value) :
    List (String × Value) →
    List (String × Value)
  | [] => [(key, value)]
  | (other, held) :: rest =>
      if key = other then (key, value) :: rest
      else if key < other then (key, value) :: (other, held) :: rest
      else (other, held) :: insertMember key value rest

/-- The keys of an object's members ascend. -/
def Ascending (members : List (String × Value)) : Prop :=
  members.Pairwise (fun earlier later => earlier.1 < later.1)

end CompilePlayground.Json
