import CompilePlayground.Decimal.Power
import CompilePlayground.Text.Octets

namespace CompilePlayground.Shell.Arithmetic

/-!
# Sums

An arithmetic expression is evaluated while it is read. Its numbers are whole, have 64 bits
and wrap around. A name stands for the number that the variable holds, and zero when it holds
none.
-/

/-- Why an expression has no value. -/
inductive Fault where
  | divisionByZero
  | malformed
  | illegalNumber (text : Octets)
  deriving Repr, DecidableEq

/-- What has been read so far leaves the rest of the expression, and the variables as they
are then. -/
structure Progress where
  rest : Octets
  assigned : List (Octets × Int)
  deriving Repr, DecidableEq

/-- Reading a part of an expression. -/
abbrev Evaluation := StateT Progress (Except Fault)

/-- The number of 64 bits that a number wraps to. -/
def wrap (value : Int) : Int :=
  Int.bmod value (twoTo 64)

/-- The number that a text stands for, which may be octal or hexadecimal. -/
def number? (text : Octets) : Option Int :=
  let digitsIn (base : Nat) (digits : Octets) : Option Int :=
    if digits.isEmpty then none
    else
      digits.foldl
        (fun total c =>
          let digit :=
            if c.isDigit then c.toNat - 48
            else if 'a' ≤ c && c ≤ 'f' then c.toNat - 87
            else if 'A' ≤ c && c ≤ 'F' then c.toNat - 55
            else 99
          match total with
          | some sum => if digit < base then some (sum * base + digit) else none
          | none => none)
        (some 0)
  match text with
  | '0' :: 'x' :: digits => digitsIn 16 digits
  | '0' :: 'X' :: digits => digitsIn 16 digits
  | '0' :: digits => if digits.isEmpty then some 0 else digitsIn 8 digits
  | digits => digitsIn 10 digits

/-- The number that the value of a variable stands for. -/
def numberOf (value : Octets) : Except Fault Int :=
  let bare := ((value.dropWhile (·.isWhitespace)).reverse.dropWhile (·.isWhitespace)).reverse
  match bare with
  | [] => .ok 0
  | '-' :: digits =>
    match number? digits with
    | some n => .ok (wrap (-n))
    | none => .error (.illegalNumber value)
  | '+' :: digits =>
    match number? digits with
    | some n => .ok (wrap n)
    | none => .error (.illegalNumber value)
  | digits =>
    match number? digits with
    | some n => .ok (wrap n)
    | none => .error (.illegalNumber value)

/-- A condition as a number. -/
def truth (condition : Bool) : Int :=
  if condition then 1 else 0

/-- The bits of a number, as a natural number. -/
def bits (value : Int) : Nat :=
  (value % (twoTo 64 : Nat)).toNat

/-- The operators of two operands by how tightly they bind, loosest first. Of operators that
begin alike the longest comes first. -/
def levels : List (List String) :=
  [["||"], ["&&"], ["|"], ["^"], ["&"], ["==", "!="], ["<=", ">=", "<", ">"], ["<<", ">>"],
    ["+", "-"], ["*", "/", "%"]]

/-- The value that an operator makes of two. -/
def apply (operator : String) (left right : Int) : Except Fault Int :=
  match operator with
  | "||" => .ok (truth (left != 0 || right != 0))
  | "&&" => .ok (truth (left != 0 && right != 0))
  | "|" => .ok (wrap (bits left ||| bits right : Nat))
  | "^" => .ok (wrap (bits left ^^^ bits right : Nat))
  | "&" => .ok (wrap (bits left &&& bits right : Nat))
  | "==" => .ok (truth (left = right))
  | "!=" => .ok (truth (left ≠ right))
  | "<=" => .ok (truth (left ≤ right))
  | ">=" => .ok (truth (left ≥ right))
  | "<" => .ok (truth (left < right))
  | ">" => .ok (truth (left > right))
  | "<<" => .ok (wrap (left * (twoTo (bits right % 64) : Nat)))
  | ">>" => .ok (wrap (Int.fdiv left (twoTo (bits right % 64) : Nat)))
  | "+" => .ok (wrap (left + right))
  | "-" => .ok (wrap (left - right))
  | "*" => .ok (wrap (left * right))
  | "/" => if right = 0 then .error .divisionByZero else .ok (wrap (Int.tdiv left right))
  | "%" => if right = 0 then .error .divisionByZero else .ok (wrap (Int.tmod left right))
  | _ => .error .malformed

/-- Take blanks. -/
def skipBlanks : Evaluation Unit :=
  modify fun p => { p with rest := p.rest.dropWhile (·.isWhitespace) }

/-- Take some characters. -/
def skip (count : Nat) : Evaluation Unit :=
  modify fun p => { p with rest := p.rest.drop count }

/-- The first of some operators that stands next and is not the beginning of a longer one. -/
def operator? (choices : List String) (rest : Octets) : Option String :=
  choices.find? fun operator =>
    operator.toList.isPrefixOf rest
      && match operator, rest.drop operator.length with
        | "|", '|' :: _ => false
        | "&", '&' :: _ => false
        | "<", '<' :: _ => false
        | ">", '>' :: _ => false
        | "==", _ => true
        | "!=", _ => true
        | "<=", _ => true
        | ">=", _ => true
        | _, '=' :: '=' :: _ => true
        | _, '=' :: _ => false
        | _, _ => true

/-- The operators that change a variable, and what they make of the old and the new value. -/
def assignments : List (String × Option String) :=
  [("<<=", some "<<"), (">>=", some ">>"), ("+=", some "+"), ("-=", some "-"), ("*=", some "*"),
    ("/=", some "/"), ("%=", some "%"), ("&=", some "&"), ("^=", some "^"), ("|=", some "|"),
    ("=", none)]

/-- The assignment that stands next. -/
def assignment? (rest : Octets) : Option (String × Option String) :=
  match rest with
  | '=' :: '=' :: _ => none
  | _ => assignments.find? fun (operator, _) => operator.toList.isPrefixOf rest

/-- The number that a variable holds. -/
def variableValue (values : Octets → Octets) (name : Octets) : Evaluation Int := do
  match (← get).assigned.lookup name with
  | some value => pure value
  | none =>
    match numberOf (values name) with
    | .ok value => pure value
    | .error fault => throw fault

mutual

/-- Evaluate an expression with all that may stand in it. -/
def expression (values : Octets → Octets) : Nat → Evaluation Int
  | 0 => throw .malformed
  | bound + 1 => do
    skipBlanks
    let rest := (← get).rest
    let name := rest.takeWhile fun c => c.isAlphanum || c = '_'
    let isName := !name.isEmpty && !(name.headD '0').isDigit
    match (if isName then assignment? ((rest.drop name.length).dropWhile (·.isWhitespace))
        else none) with
    | some (operator, change?) => do
      skip name.length
      skipBlanks
      skip operator.length
      let operand ← expression values bound
      let value ← (match change? with
        | none => pure operand
        | some change => do
          let old ← variableValue values name
          match apply change old operand with
          | .ok value => pure value
          | .error fault => throw fault)
      modify fun p => { p with assigned := (name, value) :: p.assigned }
      pure value
    | none => choice values bound

/-- Evaluate an expression that may choose between two. -/
def choice (values : Octets → Octets) : Nat → Evaluation Int
  | 0 => throw .malformed
  | bound + 1 => do
    let condition ← binary values bound levels
    skipBlanks
    match (← get).rest with
    | '?' :: _ => do
      skip 1
      let before := (← get).assigned
      let first ← expression values bound
      let afterFirst := (← get).assigned
      skipBlanks
      match (← get).rest with
      | ':' :: _ => do
        skip 1
        modify fun p => { p with assigned := before }
        let second ← expression values bound
        if condition != 0 then do
          modify fun p => { p with assigned := afterFirst }
          pure first
        else pure second
      | _ => throw .malformed
    | _ => pure condition

/-- Evaluate an expression of operators that bind as tightly as some level or more. -/
def binary (values : Octets → Octets) : Nat → List (List String) → Evaluation Int
  | 0, _ => throw .malformed
  | bound + 1, [] => operand values bound
  | bound + 1, level :: tighter => do
    let first ← binary values bound tighter
    binaryRest values bound level tighter first

/-- Evaluate what follows the first operand on some level. -/
def binaryRest (values : Octets → Octets) :
    Nat → List String → List (List String) → Int → Evaluation Int
  | 0, _, _, first => pure first
  | bound + 1, level, tighter, first => do
    skipBlanks
    match operator? level (← get).rest with
    | none => pure first
    | some operator => do
      skip operator.length
      let before := (← get).assigned
      let second ← binary values bound tighter
      if (operator = "||" && first != 0) || (operator = "&&" && first = 0) then
        modify fun p => { p with assigned := before }
      match apply operator first second with
      | .ok value => binaryRest values bound level tighter value
      | .error fault => throw fault

/-- Evaluate a single operand. -/
def operand (values : Octets → Octets) : Nat → Evaluation Int
  | 0 => throw .malformed
  | bound + 1 => do
    skipBlanks
    match (← get).rest with
    | '(' :: _ => do
      skip 1
      let value ← expression values bound
      skipBlanks
      match (← get).rest with
      | ')' :: _ => do
        skip 1
        pure value
      | _ => throw .malformed
    | '-' :: _ => do
      skip 1
      return wrap (-(← operand values bound))
    | '+' :: _ => do
      skip 1
      operand values bound
    | '!' :: _ => do
      skip 1
      return truth ((← operand values bound) = 0)
    | '~' :: _ => do
      skip 1
      return wrap (-(← operand values bound) - 1)
    | rest => do
      let name := rest.takeWhile fun c => c.isAlphanum || c = '_'
      skip name.length
      match name with
      | [] => throw .malformed
      | first :: _ =>
        if first.isDigit then
          match number? name with
          | some value => pure (wrap value)
          | none => throw .malformed
        else
          variableValue values name

end

/-- The value of an expression, and the variables that it sets, the last first. An empty
expression is zero. -/
def evaluate (values : Octets → Octets) (text : Octets) :
    Except Fault (Int × List (Octets × Int)) :=
  if text.all (·.isWhitespace) then .ok (0, [])
  else
    match (expression values (24 * text.length + 64)).run ⟨text, []⟩ with
    | .error fault => .error fault
    | .ok (value, progress) =>
      if progress.rest.all (·.isWhitespace) then .ok (value, progress.assigned)
      else .error .malformed

end CompilePlayground.Shell.Arithmetic
