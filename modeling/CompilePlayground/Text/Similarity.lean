import CompilePlayground.Decimal.Binary64

namespace CompilePlayground.Text

/-!
# How alike two words are

Two characters match when they are equal and stand no further apart than half the longer
word, less one. The likeness is the mean of three shares: of matched characters in either
word, and of matched pairs that are in order. Words are alike when it exceeds seven
tenths. The shares are double precision numbers.
-/

open Decimal (Binary64)

/-- Take the first place, from `index` on, at which a word has a character that is not
yet taken, if it lies between two bounds. -/
def takeMatch?
    (character : Char)
    (least bound index : Nat) :
    List (Char × Bool) → Option (List (Char × Bool))
  | [] => none
  | (other, taken) :: rest =>
      if bound ≤ index then none
      else if least ≤ index && other == character && !taken then
        some ((other, true) :: rest)
      else
        (takeMatch? character least bound (index + 1) rest).map ((other, taken) :: ·)

/-- The characters of a word that match some of another, in order, and the other word
with those marked that were taken. -/
def matchWords
    (range index : Nat)
    (word : List Char)
    (other : List (Char × Bool)) :
    List Char × List (Char × Bool) :=
  match word with
  | [] => ([], other)
  | character :: rest =>
      match takeMatch? character (index - range) (index + range + 1) 0 other with
      | none => matchWords range (index + 1) rest other
      | some other =>
          let (found, other) := matchWords range (index + 1) rest other
          (character :: found, other)

/-- The double nearest to a share. -/
def share (part whole : Nat) : Binary64 :=
  (Binary64.ofQuotient? part whole).getD .zero

/-- The rounded sum of two shares. -/
def addShares (left right : Binary64) : Binary64 :=
  (left.add? right).getD .zero

/-- How alike two words are, as a count of the least double. -/
def likeness (word other : String) : Nat :=
  let left := word.toList
  let right := other.toList
  let range := max left.length right.length / 2 - 1
  let (found, marked) := matchWords range 0 left (right.map (·, false))
  let taken := (marked.filter (·.2)).map (·.1)
  let matched := found.length
  let swapped := ((found.zip taken).filter fun (one, two) => one != two).length / 2
  if matched = 0 then 0
  else
    let sum := addShares (addShares (share matched left.length) (share matched right.length))
      (share (matched - swapped) matched)
    ((sum.div? ((Binary64.ofNat? 3).getD .zero)).getD .zero).units

/-- Whether two words are alike. -/
def areAlike (word other : String) : Bool :=
  (share 7 10).units < likeness word other

/-- Of several words the one most like a given one, if one is alike; the last of those
that are equally so. -/
def mostAlike? (word : String) (others : List String) : Option String :=
  others.foldl
    (fun best? other =>
      if areAlike word other && (best?.map (likeness word)).all (· ≤ likeness word other) then
        some other
      else
        best?)
    none

end CompilePlayground.Text
