import CompilePlayground.Decimal.Power
import CompilePlayground.Shell.Format
import CompilePlayground.Shell.Pattern
import CompilePlayground.Utility.Arguments

namespace CompilePlayground.Utility

open Posix

/-!
# Utilities for text and time

These utilities count, replace and write text, and let time go by.
-/

namespace Wc

/-- What the utility takes. -/
def manual : Manual :=
  { name := "wc", plain := ['c', 'l', 'w', 'm'], withArgument := [],
    long := [("bytes", 'c'), ("lines", 'l'), ("words", 'w'), ("chars", 'm')], failure := 1 }

/-- How much there is of some text. -/
structure Count where
  lines : Nat
  words : Nat
  bytes : Nat
  deriving Repr, DecidableEq

/-- A byte that parts words. -/
def isBlank (byte : UInt8) : Bool :=
  byte = 32 || (9 ≤ byte && byte ≤ 13)

/-- Count one more byte, knowing whether a word has begun. -/
def Count.next (state : Count × Bool) (byte : UInt8) : Count × Bool :=
  let (count, inWord) := state
  let counted :=
    { count with
      lines := if byte = 10 then count.lines + 1 else count.lines, bytes := count.bytes + 1 }
  if isBlank byte then (counted, false)
  else ({ counted with words := if inWord then counted.words else counted.words + 1 }, true)

/-- How much there is of some bytes. -/
def Count.ofBytes (bytes : Bytes) : Count :=
  (bytes.foldl Count.next (⟨0, 0, 0⟩, false)).1

/-- Both of two counts. -/
def Count.add (first second : Count) : Count :=
  ⟨first.lines + second.lines, first.words + second.words, first.bytes + second.bytes⟩

/-- The numbers that are asked for, in the order in which they are shown. -/
def Count.numbers (arguments : Arguments) (count : Count) : List Nat :=
  let asked := ['l', 'w', 'c', 'm'].filter arguments.has
  let letters := if asked.isEmpty then ['l', 'w', 'c'] else asked
  letters.map fun letter =>
    if letter = 'l' then count.lines else if letter = 'w' then count.words else count.bytes

/-- A line of numbers, filled up to some width, with a name behind them. -/
def line (arguments : Arguments) (width : Nat) (count : Count) (name? : Option Octets) :
    Octets :=
  let texts := (count.numbers arguments).map fun number =>
    let digits := (toString number).toList
    List.replicate (width - digits.length) ' ' ++ digits
  let joined := ([' '].intercalate texts)
  joined ++ (match name? with
    | some name => ' ' :: shown name
    | none => []) ++ ['\n']

/-- The size of a plain file that an operand names, or of the input. -/
def size? (name? : Option Octets) : Procedure (Option Nat) := do
  let status ← (match name? with
    | none => Procedure.call (.openStatus 0)
    | some ['-'] => Procedure.call (.openStatus 0)
    | some name => Procedure.call (.status (nameOf name) true))
  match status with
  | .ok found => pure (if found.kind = .plain then some found.size else none)
  | .error _ => pure (some 0)

/-- Count what is in a file, or in the input, and show that. There is no count of a file that
cannot be opened. -/
def one (arguments : Arguments) (width : Nat) (name? : Option Octets) :
    Procedure (Option Count × Bool) := do
  let opened ← (match name? with
    | none => pure (.ok 0)
    | some ['-'] => pure (.ok 0)
    | some name => Procedure.call (.openFile (nameOf name) .read))
  let name := name?.getD ['-']
  match opened with
  | .error error => do
    complain "wc" (shown name ++ ": ".toList ++ describe error)
    pure (none, false)
  | .ok descriptor => do
    let (count, fine) ← (do
      match ← readAll descriptor portionLimit with
      | .error error => do
        complain "wc" (shown name ++ ": ".toList ++ describe error)
        pure ((⟨0, 0, 0⟩ : Count), false)
      | .ok bytes => pure (Count.ofBytes bytes, true))
    put (line arguments width count name?)
    pure (some count, fine)

/-- Count lines, words and bytes. -/
def run (arguments : Arguments) : Procedure Nat := do
  let names := if arguments.operands.isEmpty then [none] else arguments.operands.map some
  let sizes ← names.mapM size?
  let digits := (toString ((sizes.filterMap id).foldl Nat.add 0)).length
  let single := names.length = 1 && ((⟨0, 0, 0⟩ : Count).numbers arguments).length = 1
  let width :=
    if single then 1
    else if sizes.any Option.isNone then max 7 digits
    else digits
  let results ← names.mapM (one arguments width)
  let total := (results.filterMap Prod.fst).foldl Count.add ⟨0, 0, 0⟩
  if 1 < names.length then
    put (line arguments width total (some "total".toList))
  pure (codeOf (results.all Prod.snd))

end Wc

namespace Tr

/-- What the utility takes. -/
def manual : Manual :=
  { name := "tr", plain := ['d', 's', 'c', 'C', 't'], withArgument := [],
    long := [("delete", 'd'), ("squeeze-repeats", 's'), ("complement", 'c')], failure := 1 }

/-- The characters from one to another. -/
def span (low high : Char) : Octets :=
  (List.range (high.toNat + 1 - low.toNat)).map fun step => Char.ofNat (low.toNat + step)

/-- All characters of a class. -/
def ofClass (name : Octets) : Octets :=
  let ranges := Shell.Pattern.classRanges name
  (List.range 256).map Char.ofNat |>.filter (Shell.Pattern.isInRanges ranges)

/-- The characters that a set names. The bound counts characters. -/
def expandWithin : Nat → Octets → Octets
  | 0, _ => []
  | _, [] => []
  | bound + 1, '[' :: ':' :: rest =>
    let name := rest.takeWhile Char.isAlpha
    match rest.drop name.length with
    | ':' :: ']' :: left => ofClass name ++ expandWithin bound left
    | _ => '[' :: expandWithin bound (':' :: rest)
  | bound + 1, text =>
    let (low, after) := match text with
      | '\\' :: rest => Shell.Format.escape rest
      | c :: rest => (c, rest)
      | [] => ('\x00', [])
    match after with
    | '-' :: c :: left =>
      let (high, rest) := if c = '\\' then Shell.Format.escape left else (c, left)
      span low high ++ expandWithin bound rest
    | rest => low :: expandWithin bound rest

/-- The characters that a set names. -/
def expand (text : Octets) : Octets :=
  expandWithin (text.length + 1) text

/-- A character in place of another one, by where that stands in a set. The last one stands for
all that have none. -/
def replacement (source target : Octets) (c : Char) : Char :=
  match source.findIdx? (· = c) with
  | some index => (target[index]?.or target.getLast?).getD c
  | none => c

/-- A text in which a run of one character from a set is a single one. -/
def squeeze (isIn : Char → Bool) : Option Char → Octets → Octets → Octets
  | _, [], done => done.reverse
  | last?, c :: rest, done =>
    if last? = some c && isIn c then squeeze isIn last? rest done
    else squeeze isIn (some c) rest (c :: done)

/-- Replace or remove characters. -/
def run (arguments : Arguments) : Procedure Nat := do
  let deletes := arguments.has 'd'
  let squeezes := arguments.has 's'
  let negated := arguments.has 'c' || arguments.has 'C'
  let sets := arguments.operands.map expand
  match sets with
  | [] => do
    misuse "tr" "missing operand".toList
    pure 1
  | first :: rest => do
    if rest.isEmpty && !deletes && !squeezes then
      complain "tr"
        ("missing operand after ".toList ++ quoted (arguments.operands.headD []))
      write 2 (Text.Octets.ascii "Two strings must be given when translating.\n")
      write 2 (Text.Octets.ascii "Try 'tr --help' for more information.\n")
      pure 1
    else do
      match ← readAll 0 portionLimit with
      | .error error => do
        complain "tr" ("read error: ".toList ++ describe error)
        pure 1
      | .ok bytes => do
        let text := Text.Octets.ofBytes bytes
        let isIn (c : Char) : Bool := first.contains c != negated
        let second := rest.headD []
        let changed :=
          if deletes then text.filter fun c => !isIn c
          else if rest.isEmpty then text
          else if negated then
            text.map fun c => if isIn c then (second.getLast?).getD c else c
          else text.map (replacement first second)
        let final :=
          if squeezes then
            squeeze (if rest.isEmpty then isIn else second.contains) none changed []
          else changed
        put final
        pure 0

end Tr

namespace Sleep

/-- What the utility takes. -/
def manual : Manual :=
  { name := "sleep", plain := [], withArgument := [], long := [], failure := 1 }

/-- The nanoseconds of a number with a fraction, times some count of seconds. -/
def scaled (whole fraction : Octets) (seconds : Nat) : Nat :=
  let digits (text : Octets) : Nat := (Shell.Format.leadingDigits 10 0 text).1
  (digits whole * tenTo fraction.length + digits fraction) * seconds * 1000000000
    / tenTo fraction.length

/-- The nanoseconds that a text stands for. -/
def interval? (text : Octets) : Option Nat :=
  let whole := text.takeWhile Char.isDigit
  let (fraction, rest) := match text.drop whole.length with
    | '.' :: left => (left.takeWhile Char.isDigit, left.dropWhile Char.isDigit)
    | left => ([], left)
  if whole.isEmpty && fraction.isEmpty then none
  else
    match rest with
    | [] => some (scaled whole fraction 1)
    | ['s'] => some (scaled whole fraction 1)
    | ['m'] => some (scaled whole fraction 60)
    | ['h'] => some (scaled whole fraction 3600)
    | ['d'] => some (scaled whole fraction 86400)
    | _ => none

/-- Let some time go by. -/
def run (arguments : Arguments) : Procedure Nat := do
  if arguments.operands.isEmpty then
    misuse "sleep" "missing operand".toList
    pure 1
  else do
    let bad := arguments.operands.filter fun text => (interval? text).isNone
    if !bad.isEmpty then
      bad.forM fun text => complain "sleep" ("invalid time interval ".toList ++ quoted text)
      write 2 (Text.Octets.ascii "Try 'sleep --help' for more information.\n")
      pure 1
    else do
      let total := (arguments.operands.filterMap interval?).foldl Nat.add 0
      let now ← Procedure.call .clock
      Procedure.call (.sleepUntil (now + total))
      pure 0

end Sleep

namespace Echo

/-- Whether a word is a switch of the utility. -/
def isSwitch (word : Octets) : Bool :=
  match word with
  | '-' :: letters => !letters.isEmpty && letters.all fun c => c = 'n' || c = 'e' || c = 'E'
  | _ => false

/-- Write the arguments. -/
def start (invocation : Invocation) : Program :=
  let all := (invocation.arguments.drop 1).map Text.Octets.ofBytes
  let switches := all.takeWhile isSwitch
  let words := all.drop switches.length
  let letters := switches.flatten
  let interprets :=
    (letters.filter fun c => c = 'e' || c = 'E').getLast? = some 'e'
  let joined := [' '].intercalate words
  let (text, ends) := if interprets then Shell.Format.escaped joined else (joined, false)
  Procedure.program do
    put (if ends || letters.contains 'n' then text else text ++ ['\n'])
    pure 0

end Echo

end CompilePlayground.Utility
