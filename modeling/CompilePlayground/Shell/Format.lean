import CompilePlayground.Decimal.Power
import CompilePlayground.Text.Octets

namespace CompilePlayground.Shell.Format

/-!
# Formatted output

Both ways of writing text know the same escapes. `escaped` replaces those of a text, and
`formatted` fills the conversions of a format with arguments, as often as there are any.
-/

/-- The octal number that the first of some digits make, and what follows. -/
def octal : Nat → Nat → Octets → Nat × Octets
  | 0, total, rest => (total, rest)
  | count + 1, total, c :: rest =>
    if '0' ≤ c && c ≤ '7' then octal count (total * 8 + (c.toNat - 48)) rest
    else (total, c :: rest)
  | _, total, [] => (total, [])

/-- The character with the lowest eight bits of a number. -/
def byte (number : Nat) : Char :=
  Char.ofNat (number % 256)

/-- The character that an escape stands for, and what follows. A backslash before anything else
stands for itself. -/
def escape : Octets → Char × Octets
  | 'a' :: rest => ('\x07', rest)
  | 'b' :: rest => ('\x08', rest)
  | 'f' :: rest => ('\x0c', rest)
  | 'n' :: rest => ('\n', rest)
  | 'r' :: rest => ('\x0d', rest)
  | 't' :: rest => ('\t', rest)
  | 'v' :: rest => ('\x0b', rest)
  | '\\' :: rest => ('\\', rest)
  | c :: rest =>
    if '0' ≤ c && c ≤ '7' then
      let (number, left) := octal 3 0 (c :: rest)
      (byte number, left)
    else ('\\', c :: rest)
  | [] => ('\\', [])

/-- A text with its escapes replaced, and whether one of them ends all output. The bound counts
characters. -/
def escapedWithin : Nat → Octets → Octets × Bool
  | 0, _ => ([], false)
  | _, [] => ([], false)
  | _, '\\' :: 'c' :: _ => ([], true)
  | bound + 1, '\\' :: '0' :: rest =>
    let (number, left) := octal 3 0 rest
    let (text, ends) := escapedWithin bound left
    (byte number :: text, ends)
  | bound + 1, '\\' :: rest =>
    let (c, left) := escape rest
    let (text, ends) := escapedWithin bound left
    (c :: text, ends)
  | bound + 1, c :: rest =>
    let (text, ends) := escapedWithin bound rest
    (c :: text, ends)

/-- A text with its escapes replaced, and whether one of them ends all output. -/
def escaped (text : Octets) : Octets × Bool :=
  escapedWithin (text.length + 1) text

/-- Arguments with a blank between them, escapes replaced, up to the end of all output. -/
def echoed : List Octets → Octets × Bool
  | [] => ([], false)
  | [word] => escaped word
  | word :: rest =>
    let (text, ends) := escaped word
    if ends then (text, true)
    else
      let (more, endsLater) := echoed rest
      (text ++ ' ' :: more, endsLater)

/-- What the arguments of the simpler way of writing stand for. -/
def echo (arguments : List Octets) : Octets :=
  match arguments with
  | ['-', 'n'] :: words => (echoed words).1
  | words =>
    let (text, ends) := echoed words
    if ends then text else text ++ ['\n']

/-- How a conversion is to be written. -/
structure Shape where
  toLeft : Bool
  zeros : Bool
  plus : Bool
  blank : Bool
  alternate : Bool
  width : Nat
  precision? : Option Nat
  deriving Repr, DecidableEq

/-- What has been written so far. -/
structure Written where
  output : Octets
  arguments : List Octets
  hasTaken : Bool
  hasEnded : Bool
  complaints : List Octets
  refusal? : Option Octets
  deriving Repr, DecidableEq

/-- A text filled up to a width. -/
def Shape.fill (shape : Shape) (text : Octets) : Octets :=
  let missing := shape.width - text.length
  if shape.toLeft then text ++ List.replicate missing ' '
  else List.replicate missing ' ' ++ text

/-- A number with a sign before its digits, filled up to a width. -/
def Shape.fillNumber (shape : Shape) (sign digits : Octets) : Octets :=
  let least := shape.precision?.getD 1
  let padded := List.replicate (least - digits.length) '0' ++ digits
  let missing := shape.width - (sign.length + padded.length)
  if shape.zeros && !shape.toLeft && shape.precision?.isNone then
    sign ++ List.replicate missing '0' ++ padded
  else shape.fill (sign ++ padded)

/-- The value of a digit in some base. -/
def digit? (base : Nat) (c : Char) : Option Nat :=
  let value :=
    if c.isDigit then c.toNat - 48
    else if 'a' ≤ c && c ≤ 'z' then c.toNat - 87
    else if 'A' ≤ c && c ≤ 'Z' then c.toNat - 55
    else base
  if value < base then some value else none

/-- The number that the first characters of a text make in some base, and what follows. -/
def leadingDigits (base : Nat) (total : Nat) : Octets → Nat × Octets
  | [] => (total, [])
  | c :: rest =>
    match digit? base c with
    | some value => leadingDigits base (total * base + value) rest
    | none => (total, c :: rest)

/-- The number that a text stands for, and what is wrong with it. -/
def integer (text : Octets) : Int × Option String :=
  match text with
  | [] => (0, none)
  | '"' :: c :: _ => (c.toNat, none)
  | '\'' :: c :: _ => (c.toNat, none)
  | _ =>
    let bare := text.dropWhile (·.isWhitespace)
    let (isNegative, digits) := match bare with
      | '-' :: rest => (true, rest)
      | '+' :: rest => (false, rest)
      | rest => (false, rest)
    let (number, left, found) := match digits with
      | '0' :: 'x' :: rest =>
        let (n, left) := leadingDigits 16 0 rest
        (n, left, true)
      | '0' :: 'X' :: rest =>
        let (n, left) := leadingDigits 16 0 rest
        (n, left, true)
      | '0' :: rest =>
        let (n, left) := leadingDigits 8 0 rest
        (n, left, true)
      | rest =>
        let (n, left) := leadingDigits 10 0 rest
        (n, left, left.length < rest.length)
    let value : Int := if isNegative then -(number : Int) else number
    if !found then (0, some "expected numeric value")
    else if !left.isEmpty then (value, some "not completely converted")
    else (value, none)

/-- The flags that a conversion begins with. -/
def flags (shape : Shape) : Octets → Shape × Octets
  | '-' :: rest => flags { shape with toLeft := true } rest
  | '0' :: rest => flags { shape with zeros := true } rest
  | '+' :: rest => flags { shape with plus := true } rest
  | ' ' :: rest => flags { shape with blank := true } rest
  | '#' :: rest => flags { shape with alternate := true } rest
  | rest => (shape, rest)

/-- Take the next argument. -/
def Written.take (written : Written) : Octets × Written :=
  match written.arguments with
  | [] => ([], { written with hasTaken := true })
  | first :: rest => (first, { written with arguments := rest, hasTaken := true })

/-- Write more. -/
def Written.add (written : Written) (text : Octets) : Written :=
  { written with output := written.output ++ text }

/-- Take the next argument as a number. -/
def Written.takeNumber (written : Written) : Int × Written :=
  let (text, next) := written.take
  let (value, complaint?) := integer text
  match complaint? with
  | none => (value, next)
  | some complaint =>
    (value,
      { next with complaints := next.complaints ++ [text ++ ": ".toList ++ complaint.toList] })

/-- A count that stands in a conversion, or that the next argument gives. -/
def count (written : Written) (rest : Octets) : Option Int × Octets × Written :=
  match rest with
  | '*' :: left =>
    let (value, next) := written.takeNumber
    (some value, left, next)
  | _ =>
    let digits := rest.takeWhile Char.isDigit
    if digits.isEmpty then (none, rest, written)
    else (some (leadingDigits 10 0 digits).1, rest.drop digits.length, written)

/-- Write the value of one conversion. -/
def convert (shape : Shape) (conversion : Char) (written : Written) : Written :=
  let unsigned (base : Nat) (lead : Octets) (raise : Char → Char) : Written :=
    let (value, next) := written.takeNumber
    let number := (value % (twoTo 64 : Nat)).toNat
    let digits := if number = 0 then ['0'] else (Nat.toDigits base number).map raise
    next.add (shape.fillNumber (if shape.alternate && number != 0 then lead else []) digits)
  match conversion with
  | 's' =>
    let (text, next) := written.take
    next.add (shape.fill (match shape.precision? with
      | some precision => text.take precision
      | none => text))
  | 'b' =>
    let (raw, next) := written.take
    let (text, ends) := escaped raw
    { next.add (shape.fill (match shape.precision? with
        | some precision => text.take precision
        | none => text)) with hasEnded := ends }
  | 'c' =>
    let (text, next) := written.take
    next.add (shape.fill (text.take 1))
  | 'o' => unsigned 8 ['0'] id
  | 'u' => unsigned 10 [] id
  | 'x' => unsigned 16 ['0', 'x'] id
  | 'X' => unsigned 16 ['0', 'X'] Char.toUpper
  | _ =>
    let (value, next) := written.takeNumber
    let sign :=
      if value < 0 then ['-'] else if shape.plus then ['+'] else if shape.blank then [' '] else []
    next.add (shape.fillNumber sign (toString value.natAbs).toList)

/-- The conversions that there are. -/
def conversions : List Char :=
  ['s', 'b', 'c', 'd', 'i', 'o', 'u', 'x', 'X']

/-- Write a format once. The bound counts characters. -/
def once : Nat → Octets → Written → Written
  | 0, _, written => written
  | _, [], written => written
  | bound + 1, '\\' :: rest, written =>
    let (c, left) := escape rest
    once bound left (written.add [c])
  | bound + 1, '%' :: '%' :: rest, written => once bound rest (written.add ['%'])
  | bound + 1, '%' :: rest, written =>
    let plain : Shape :=
      { toLeft := false, zeros := false, plus := false, blank := false, alternate := false,
        width := 0, precision? := none }
    let (flagged, afterFlags) := flags plain rest
    let (width?, afterWidth, withWidth) := count written afterFlags
    let width := width?.getD 0
    let wide :=
      { flagged with width := width.natAbs, toLeft := flagged.toLeft || width < 0 }
    let (shape, afterPrecision, ready) := match afterWidth with
      | '.' :: left =>
        let (precision?, left, next) := count withWidth left
        ({ wide with precision? := some ((precision?.getD 0).toNat) }, left, next)
      | left => (wide, left, withWidth)
    match afterPrecision with
    | conversion :: left =>
      if conversions.contains conversion then
        let next := convert shape conversion ready
        if next.hasEnded then next else once bound left next
      else
        { ready with
          hasEnded := true,
          refusal? := some ('%' :: rest ++ ": invalid directive".toList) }
    | [] =>
      { ready with hasEnded := true, refusal? := some "missing format character".toList }
  | bound + 1, c :: rest, written => once bound rest (written.add [c])

/-- Write a format as often as there are arguments for it, and at least once. -/
def repeated (format : Octets) : Nat → Written → Written
  | 0, written => written
  | rounds + 1, written =>
    let next := once (format.length + 1) format { written with hasTaken := false }
    if next.hasEnded || !next.hasTaken || next.arguments.isEmpty then next
    else repeated format rounds next

/-- What a format and arguments stand for, and what is wrong with them. -/
def formatted (format : Octets) (arguments : List Octets) : Written :=
  repeated format (arguments.length + 1) ⟨[], arguments, false, false, [], none⟩

end CompilePlayground.Shell.Format
