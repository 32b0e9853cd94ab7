import CompilePlayground.Html.Reference.LowerNames
import CompilePlayground.Html.Reference.UpperNames

namespace CompilePlayground.Html.Reference

/-!
# Character references

What follows an ampersand may name characters, or give a code point in decimal or
hexadecimal digits. Of the names that the input begins with the longest one counts.
In an attribute a name without its semicolon is no reference when an equals sign, a
letter or a digit follows. An ampersand that begins no reference stands for itself.
-/

/-- The names that begin with a letter. -/
def namesFor (first : Char) : List (String × String) :=
  match first with
  | 'A' => upperA | 'B' => upperB | 'C' => upperC | 'D' => upperD | 'E' => upperE
  | 'F' => upperF | 'G' => upperG | 'H' => upperH | 'I' => upperI | 'J' => upperJ
  | 'K' => upperK | 'L' => upperL | 'M' => upperM | 'N' => upperN | 'O' => upperO
  | 'P' => upperP | 'Q' => upperQ | 'R' => upperR | 'S' => upperS | 'T' => upperT
  | 'U' => upperU | 'V' => upperV | 'W' => upperW | 'X' => upperX | 'Y' => upperY
  | 'Z' => upperZ
  | 'a' => lowerA | 'b' => lowerB | 'c' => lowerC | 'd' => lowerD | 'e' => lowerE
  | 'f' => lowerF | 'g' => lowerG | 'h' => lowerH | 'i' => lowerI | 'j' => lowerJ
  | 'k' => lowerK | 'l' => lowerL | 'm' => lowerM | 'n' => lowerN | 'o' => lowerO
  | 'p' => lowerP | 'q' => lowerQ | 'r' => lowerR | 's' => lowerS | 't' => lowerT
  | 'u' => lowerU | 'v' => lowerV | 'w' => lowerW | 'x' => lowerX | 'y' => lowerY
  | 'z' => lowerZ
  | _ => []

/-- A name that the input begins with, and what it stands for. -/
structure NamedMatch where
  name : List Char
  text : List Char
  deriving Repr, DecidableEq

/-- The longer of a match so far and another name, if the input begins with that. -/
def NamedMatch.improve
    (input : List Char)
    (best? : Option NamedMatch)
    (entry : String × String) :
    Option NamedMatch :=
  let name := entry.1.toList
  if name.isPrefixOf input then
    match best? with
    | none => some ⟨name, entry.2.toList⟩
    | some best => if best.name.length < name.length then some ⟨name, entry.2.toList⟩ else best?
  else
    best?

/-- The longest name that the input begins with. -/
def longestName? (input : List Char) : Option NamedMatch :=
  match input with
  | [] => none
  | first :: _ => (namesFor first).foldl (NamedMatch.improve input) none

/-- A letter or a digit of ASCII. -/
def isAlphanumeric (character : Char) : Bool :=
  character.isAlphanum

/-- Whether a name without a semicolon is no reference because of what follows it in an
attribute. -/
def continuesWord (rest : List Char) : Bool :=
  match rest with
  | [] => false
  | next :: _ => next == '=' || isAlphanumeric next

/-- What the C1 controls stand for when they are given by number. -/
def controlReplacements : List Nat :=
  [0x20AC, 0x81, 0x201A, 0x0192, 0x201E, 0x2026, 0x2020, 0x2021, 0x02C6, 0x2030, 0x0160,
   0x2039, 0x0152, 0x8D, 0x017D, 0x8F, 0x90, 0x2018, 0x2019, 0x201C, 0x201D, 0x2022, 0x2013,
   0x2014, 0x02DC, 0x2122, 0x0161, 0x203A, 0x0153, 0x9D, 0x017E, 0x0178]

/-- The character that a number stands for. -/
def characterOf (number : Nat) : Char :=
  if number = 0 ∨ (0xD800 ≤ number ∧ number ≤ 0xDFFF) ∨ 0x10FFFF < number then
    '\uFFFD'
  else if 0x80 ≤ number ∧ number ≤ 0x9F then
    Char.ofNat (controlReplacements.getD (number - 0x80) 0xFFFD)
  else
    Char.ofNat number

/-- The value of a digit in a base up to sixteen. -/
def digitIn? (base : Nat) (character : Char) : Option Nat :=
  let value? :=
    if character.isDigit then some (character.toNat - 48)
    else if 'a' ≤ character ∧ character ≤ 'f' then some (character.toNat - 87)
    else if 'A' ≤ character ∧ character ≤ 'F' then some (character.toNat - 55)
    else none
  value?.filter (· < base)

/-- Read the digits of a number; a number beyond all code points stops growing. -/
def readNumber (base value : Nat) (input : List Char) : Nat × List Char :=
  match input with
  | [] => (value, [])
  | character :: rest =>
      match digitIn? base character with
      | some digit => readNumber base (min (value * base + digit) 0x110000) rest
      | none => (value, character :: rest)

/-- Drop the semicolon that may end a reference by number. -/
def dropSemicolon : List Char → List Char
  | ';' :: rest => rest
  | rest => rest

/-- The reference by number whose digits begin here, in a given base. -/
def decodeNumber? (base : Nat) (input : List Char) : Option (List Char × List Char) :=
  match input with
  | [] => none
  | first :: _ =>
      if (digitIn? base first).isSome then
        let (value, rest) := readNumber base 0 input
        some ([characterOf value], dropSemicolon rest)
      else
        none

/-- The reference that follows an ampersand: what it stands for, and the input after
it. -/
def decode? (inAttribute : Bool) (input : List Char) : Option (List Char × List Char) :=
  match input with
  | '#' :: 'x' :: digits => decodeNumber? 16 digits
  | '#' :: 'X' :: digits => decodeNumber? 16 digits
  | '#' :: digits => decodeNumber? 10 digits
  | _ =>
      match longestName? input with
      | none => none
      | some found =>
          let rest := input.drop found.name.length
          if inAttribute && found.name.getLast? != some ';' && continuesWord rest then
            none
          else
            some (found.text, rest)

/-- What stands for an ampersand and what follows it, and the input after that. -/
def decode (inAttribute : Bool) (input : List Char) : List Char × List Char :=
  (decode? inAttribute input).getD (['&'], input)

end CompilePlayground.Html.Reference
