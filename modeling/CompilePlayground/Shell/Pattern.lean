import CompilePlayground.Text.Octets

namespace CompilePlayground.Shell

/-!
# Patterns

A pattern is a text in which a star stands for any run of characters, a question mark for any
one character, and brackets for one of several. Quoted characters stand for themselves.
-/

/-- A character of a text that may be a pattern. -/
structure Symbol where
  character : Char
  isQuoted : Bool
  deriving Repr, DecidableEq

/-- A piece of a pattern. -/
inductive Shape where
  | exactly (c : Char)
  | anyOne
  | anyRun
  | oneOf (negated : Bool) (ranges : List (Char × Char))
  deriving Repr, DecidableEq

namespace Pattern

/-- The ranges of a class of characters. -/
def classRanges (name : Octets) : List (Char × Char) :=
  match String.ofList name with
  | "alpha" => [('a', 'z'), ('A', 'Z')]
  | "digit" => [('0', '9')]
  | "alnum" => [('a', 'z'), ('A', 'Z'), ('0', '9')]
  | "upper" => [('A', 'Z')]
  | "lower" => [('a', 'z')]
  | "space" => [('\t', '\x0d'), (' ', ' ')]
  | "blank" => [('\t', '\t'), (' ', ' ')]
  | "punct" => [('!', '/'), (':', '@'), ('[', Char.ofNat 96), ('{', '~')]
  | "xdigit" => [('0', '9'), ('a', 'f'), ('A', 'F')]
  | "cntrl" => [('\x00', '\x1f'), ('\x7f', '\x7f')]
  | "print" => [(' ', '~')]
  | "graph" => [('!', '~')]
  | _ => []

/-- The ranges up to the closing bracket, and what follows it. The first character may be a
closing bracket that stands for itself. -/
def ranges : Bool → List Symbol → Option (List (Char × Char) × List Symbol)
  | _, [] => none
  | isFirst, symbol :: rest =>
    if symbol.character = ']' && !symbol.isQuoted && !isFirst then
      some ([], rest)
    else
      match symbol, rest with
      | ⟨'[', false⟩, ⟨':', false⟩ :: after =>
        let name := after.takeWhile fun s => s.character.isAlpha
        match h : after.drop name.length with
        | ⟨':', false⟩ :: ⟨']', false⟩ :: left =>
          have : left.length < after.length := by
            have total := congrArg List.length h
            simp only [List.length_drop, List.length_cons] at total
            omega
          (ranges false left).map fun (found, tail) =>
            (classRanges (name.map Symbol.character) ++ found, tail)
        | _ => (ranges false (⟨':', false⟩ :: after)).map fun (found, tail) =>
            (('[', '[') :: found, tail)
      | low, ⟨'-', false⟩ :: high :: left =>
        if high.character = ']' && !high.isQuoted then
          (ranges false (⟨'-', false⟩ :: high :: left)).map fun (found, tail) =>
            ((low.character, low.character) :: found, tail)
        else
          (ranges false left).map fun (found, tail) =>
            ((low.character, high.character) :: found, tail)
      | one, left =>
        (ranges false left).map fun (found, tail) =>
          ((one.character, one.character) :: found, tail)
termination_by _ symbols => symbols.length

/-- The shapes of a pattern. The bound counts characters. -/
def shapesWithin : Nat → List Symbol → List Shape
  | 0, _ => []
  | _, [] => []
  | bound + 1, symbol :: rest =>
    if symbol.isQuoted then .exactly symbol.character :: shapesWithin bound rest
    else
      match symbol.character with
      | '*' => .anyRun :: shapesWithin bound rest
      | '?' => .anyOne :: shapesWithin bound rest
      | '[' =>
        let negated :=
          match rest with
          | ⟨'!', false⟩ :: _ => true
          | ⟨'^', false⟩ :: _ => true
          | _ => false
        match ranges true (if negated then rest.drop 1 else rest) with
        | some (found, left) => .oneOf negated found :: shapesWithin bound left
        | none => .exactly '[' :: shapesWithin bound rest
      | '\\' =>
        match rest with
        | next :: left => .exactly next.character :: shapesWithin bound left
        | [] => [.exactly '\\']
      | c => .exactly c :: shapesWithin bound rest

/-- The shapes of a pattern. -/
def shapes (symbols : List Symbol) : List Shape :=
  shapesWithin (symbols.length + 1) symbols

/-- Whether a character is in one of some ranges. -/
def isInRanges (ranges : List (Char × Char)) (c : Char) : Bool :=
  ranges.any fun (low, high) => low ≤ c && c ≤ high

/-- Whether some condition holds of a text or of an end of it. -/
def anyEnd (condition : Octets → Bool) : Octets → Bool
  | [] => condition []
  | c :: rest => condition (c :: rest) || anyEnd condition rest

/-- Whether a text as a whole fits a pattern. -/
def fits : List Shape → Octets → Bool
  | [], text => text.isEmpty
  | .anyRun :: shapes, text => anyEnd (fits shapes) text
  | .anyOne :: shapes, _ :: text => fits shapes text
  | .exactly c :: shapes, d :: text => c = d && fits shapes text
  | .oneOf negated ranges :: shapes, d :: text =>
    (isInRanges ranges d != negated) && fits shapes text
  | _, [] => false

/-- Whether symbols are more than a text that stands for itself. -/
def isPattern (symbols : List Symbol) : Bool :=
  symbols.any fun symbol =>
    !symbol.isQuoted && (symbol.character = '*' || symbol.character = '?'
      || symbol.character = '[')

/-- A text without the shortest or longest beginning that fits. -/
def withoutStart (longest : Bool) (pattern : List Shape) (text : Octets) : Octets :=
  let counts := List.range (text.length + 1)
  match (if longest then counts.reverse else counts).find? fun count =>
      fits pattern (text.take count) with
  | some count => text.drop count
  | none => text

/-- A text without the shortest or longest end that fits. -/
def withoutEnd (longest : Bool) (pattern : List Shape) (text : Octets) : Octets :=
  let counts := List.range (text.length + 1)
  match (if longest then counts else counts.reverse).find? fun count =>
      fits pattern (text.drop count) with
  | some count => text.take count
  | none => text

end Pattern

end CompilePlayground.Shell
