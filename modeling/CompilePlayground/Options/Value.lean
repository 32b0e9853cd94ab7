import CompilePlayground.Decimal.Power
import CompilePlayground.Options.Failure

namespace CompilePlayground.Options

/-!
# Values of options

Every option has a type of its own, and a written value is acceptable or not for that
type alone.
-/

/-- Read digits onto a number up to a limit. Of a digit that is none and a number that is
too large the one that comes first counts. -/
def readDigits (limit value : Nat) (tooFar : NumberFault) : List Char → Except NumberFault Nat
  | [] => .ok value
  | character :: rest =>
      if !character.isDigit then .error .digit
      else
        let next := value * 10 + (character.toNat - 48)
        if limit < next then .error tooFar else readDigits limit next tooFar rest

/-- The number that a text without a minus sign writes. -/
def readNatural (limit : Nat) (text : List Char) : Except NumberFault Nat :=
  match text with
  | [] => .error .empty
  | ['+'] => .error .digit
  | '+' :: digits => readDigits limit 0 .large digits
  | digits => readDigits limit 0 .large digits

/-- The number that a text writes, if 64 bits hold it with its sign. -/
def readInteger (text : List Char) : Except NumberFault Int :=
  match text with
  | '-' :: digit :: digits =>
      (readDigits (twoTo 63) 0 .small (digit :: digits)).map fun value => -(value : Int)
  | _ => (readNatural (twoTo 63 - 1) text).map Int.ofNat

/-- The text that bytes hold. -/
def acceptText (raw : Bytes) : Except Failure String :=
  match Text.Utf8.decode? raw with
  | .ok text => .ok text
  | .error _ => .error .notText

/-- The number that an option has. -/
def acceptNumber (flag : Flag) (raw : Bytes) : Except Failure Nat :=
  match acceptText raw with
  | .error failure => .error failure
  | .ok text => (readNatural (twoTo 64 - 1) text.toList).mapError (.notNumber flag text)

/-- The port that an option has. -/
def acceptPort (raw : Bytes) : Except Failure Nat :=
  match acceptText raw with
  | .error failure => .error failure
  | .ok text =>
      match readInteger text.toList with
      | .error fault => .error (.notNumber .port text fault)
      | .ok value =>
          if 0 ≤ value ∧ value ≤ 65535 then .ok value.toNat
          else .error (.notNumber .port text (.range value))

/-- The path that an option has. It is not empty. -/
def acceptPath (flag : Flag) (raw : Bytes) : Except Failure Bytes :=
  if raw.isEmpty then .error (.missing flag) else .ok raw

/-- Whether the switch is on. -/
def acceptSwitch (raw : Bytes) : Except Failure Bool :=
  let text := Text.Utf8.decodeLossy raw
  if raw.isEmpty then .error (.missing .allowRoot)
  else if text == "true" then .ok true
  else if text == "false" then .ok false
  else .error (.notSwitch text)

/-- The texts that several pieces hold. -/
def acceptTexts : List Bytes → Except Failure (List String)
  | [] => .ok []
  | raw :: rest =>
      match acceptText raw with
      | .error failure => .error failure
      | .ok text => (acceptTexts rest).map (text :: ·)

/-- What is wrong with a value of an option, if something is. -/
def Flag.check (flag : Flag) (raw : Bytes) : Except Failure Unit :=
  match flag with
  | .host => (acceptText raw).map fun _ => ()
  | .compiler => (acceptText raw).map fun _ => ()
  | .compilerFlags => (acceptText raw).map fun _ => ()
  | .port => (acceptPort raw).map fun _ => ()
  | .workers => (acceptNumber .workers raw).map fun _ => ()
  | .timeout => (acceptNumber .timeout raw).map fun _ => ()
  | .rateLimit => (acceptNumber .rateLimit raw).map fun _ => ()
  | .indexPath => (acceptPath .indexPath raw).map fun _ => ()
  | .workDirectory => (acceptPath .workDirectory raw).map fun _ => ()
  | .allowRoot => (acceptSwitch raw).map fun _ => ()

/-- What is wrong with the first bad one of several values. -/
def Flag.checkAll (flag : Flag) : List Bytes → Except Failure Unit
  | [] => .ok ()
  | raw :: rest =>
      match flag.check raw with
      | .error failure => .error failure
      | .ok () => flag.checkAll rest

end CompilePlayground.Options
