import CompilePlayground.Shell.Session

namespace CompilePlayground.Shell

open Posix

/-!
# Conditions

A condition compares texts or numbers, or asks about files. It is read from the arguments of
the command that tests it, and `Condition.holds` finds out whether it is met.
-/

/-- A condition on texts, numbers and files. -/
inductive Condition where
  | nonempty (text : Octets)
  | unary (operator : Octets) (operand : Octets)
  | binary (left operator right : Octets)
  | negated (condition : Condition)
  | both (first second : Condition)
  | either (first second : Condition)
  deriving Repr, DecidableEq

namespace Condition

/-- The operators of one operand. -/
def unaryOperators : List Octets :=
  ["-b", "-c", "-d", "-e", "-f", "-g", "-h", "-k", "-L", "-n", "-O", "-G", "-p", "-r", "-s", "-S",
    "-t", "-u", "-w", "-x", "-z"].map String.toList

/-- The operators of two operands. -/
def binaryOperators : List Octets :=
  ["=", "!=", "<", ">", "-eq", "-ne", "-lt", "-le", "-gt", "-ge", "-nt", "-ot", "-ef"].map
    String.toList

/-- A condition with what is left of the arguments, or what is wrong with them. -/
abbrev Reading := Except Octets (Condition × List Octets)

mutual

/-- Read conditions of which one has to hold. -/
def disjunction : Nat → List Octets → Reading
  | 0, _ => .error "argument expected".toList
  | bound + 1, words => do
    let (first, rest) ← conjunction bound words
    match rest with
    | ['-', 'o'] :: more =>
      let (second, left) ← disjunction bound more
      pure (.either first second, left)
    | _ => pure (first, rest)

/-- Read conditions of which all have to hold. -/
def conjunction : Nat → List Octets → Reading
  | 0, _ => .error "argument expected".toList
  | bound + 1, words => do
    let (first, rest) ← negation bound words
    match rest with
    | ['-', 'a'] :: more =>
      let (second, left) ← conjunction bound more
      pure (.both first second, left)
    | _ => pure (first, rest)

/-- Read a condition that may be negated. -/
def negation : Nat → List Octets → Reading
  | 0, _ => .error "argument expected".toList
  | bound + 1, words =>
    match words with
    | ['!'] :: next :: more => do
      let (condition, left) ← negation bound (next :: more)
      pure (.negated condition, left)
    | _ => primary bound words

/-- Read a condition that is put together from no others, unless in brackets. -/
def primary : Nat → List Octets → Reading
  | 0, _ => .error "argument expected".toList
  | bound + 1, words =>
    match words with
    | [] => .error "argument expected".toList
    | left :: operator :: right :: rest =>
      if binaryOperators.contains operator then .ok (.binary left operator right, rest)
      else if left = ['('] then bracketed bound (operator :: right :: rest)
      else if unaryOperators.contains left then .ok (.unary left operator, right :: rest)
      else .ok (.nonempty left, operator :: right :: rest)
    | first :: operand :: [] =>
      if unaryOperators.contains first then .ok (.unary first operand, [])
      else if first = ['('] then bracketed bound [operand]
      else .ok (.nonempty first, [operand])
    | [single] => .ok (.nonempty single, [])

/-- Read a condition behind an opening bracket. -/
def bracketed : Nat → List Octets → Reading
  | 0, _ => .error "argument expected".toList
  | bound + 1, words => do
    let (condition, rest) ← disjunction bound words
    match rest with
    | [')'] :: left => pure (condition, left)
    | _ => .error "closing paren expected".toList

end

/-- Read a condition from all of some arguments. Without any it is one that never holds. -/
def ofWords (words : List Octets) : Except Octets Condition :=
  match words with
  | [] => .ok (.nonempty [])
  | [left, operator, right] =>
    if binaryOperators.contains operator then .ok (.binary left operator right)
    else full words
  | _ => full words
where
  full (words : List Octets) : Except Octets Condition := do
    let (condition, rest) ← disjunction (4 * words.length + 8) words
    if rest.isEmpty then pure condition
    else
      let last := words[words.length - rest.length - 1]?.getD []
      .error (last ++ ": unexpected operator".toList)

/-- The number that an operand stands for. -/
def number? (text : Octets) : Option Int :=
  let bare := ((text.dropWhile (·.isWhitespace)).reverse.dropWhile (·.isWhitespace)).reverse
  let (sign, digits) : Int × Octets := match bare with
    | '-' :: rest => (-1, rest)
    | '+' :: rest => (1, rest)
    | rest => (1, rest)
  if digits.isEmpty || !digits.all Char.isDigit then none
  else (String.ofList digits).toNat?.map fun n => sign * n

/-- What can be learned about a file, if there is one. -/
def status? (follow : Bool) (name : Octets) : Run (Option FileStatus) := do
  match ← Run.ask (.status (Text.Octets.toBytes name) follow) with
  | .ok status => pure (some status)
  | .error _ => pure none

/-- Whether a condition with one operand holds. -/
def unaryHolds (operator operand : Octets) : Run Bool := do
  match String.ofList operator with
  | "-n" => pure !operand.isEmpty
  | "-z" => pure operand.isEmpty
  | "-t" => pure false
  | "-h" => return (← status? false operand).any fun status => status.kind = .link
  | "-L" => return (← status? false operand).any fun status => status.kind = .link
  | "-d" => return (← status? true operand).any fun status => status.kind = .directory
  | "-f" => return (← status? true operand).any fun status => status.kind = .plain
  | "-c" => return (← status? true operand).any fun status => status.kind = .device
  | "-s" => return (← status? true operand).any fun status => status.size != 0
  | "-x" =>
    return (← status? true operand).any fun status =>
      status.kind = .directory || status.mode &&& 0o111 != 0
  | "-e" => return (← status? true operand).isSome
  | "-r" => return (← status? true operand).isSome
  | "-w" => return (← status? true operand).isSome
  | "-O" => return (← status? true operand).isSome
  | "-G" => return (← status? true operand).isSome
  | _ => pure false

/-- Whether a condition with two operands holds. An operand that should be a number and is none
is what is wrong. -/
def binaryHolds (left operator right : Octets) : Run (Except Octets Bool) := do
  let compare (relation : Int → Int → Bool) : Except Octets Bool :=
    match number? left, number? right with
    | some a, some b => .ok (relation a b)
    | none, _ => .error ("Illegal number: ".toList ++ left)
    | _, none => .error ("Illegal number: ".toList ++ right)
  match String.ofList operator with
  | "=" => pure (.ok (left = right))
  | "!=" => pure (.ok (left ≠ right))
  | "<" => pure (.ok (String.ofList left < String.ofList right))
  | ">" => pure (.ok (String.ofList right < String.ofList left))
  | "-eq" => pure (compare fun a b => a = b)
  | "-ne" => pure (compare fun a b => a ≠ b)
  | "-lt" => pure (compare fun a b => a < b)
  | "-le" => pure (compare fun a b => a ≤ b)
  | "-gt" => pure (compare fun a b => a > b)
  | "-ge" => pure (compare fun a b => a ≥ b)
  | _ => do
    let first? ← status? true left
    let second? ← status? true right
    match first?, second? with
    | some first, some second =>
      pure (.ok (match String.ofList operator with
        | "-nt" => first.modified > second.modified
        | "-ot" => first.modified < second.modified
        | _ => first.identity = second.identity && first.kind = second.kind))
    | _, _ => pure (.ok false)

/-- Whether a condition holds, or what is wrong with it. -/
def holds : Condition → Run (Except Octets Bool)
  | .nonempty text => pure (.ok !text.isEmpty)
  | .unary operator operand => return .ok (← unaryHolds operator operand)
  | .binary left operator right => binaryHolds left operator right
  | .negated condition => return (← holds condition).map fun value => !value
  | .both first second => do
    match ← holds first with
    | .ok true => holds second
    | other => pure other
  | .either first second => do
    match ← holds first with
    | .ok false => holds second
    | other => pure other

end Condition

end CompilePlayground.Shell
