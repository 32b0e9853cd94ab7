import CompilePlayground.Log
import CompilePlayground.Text.Blank

namespace CompilePlayground

/-!
# Which events are shown

A `LogFilter` is written as directives with commas between them. A directive says how grave
the events of some target have to be, or those of all targets; the target of an event may go
on after that of the directive. Of the directives that apply to an event the most particular
one counts. A directive may also name a span, in which case no event stands in it here, or
fields that an event has to have.
-/

/-- How grave events have to be to be shown. -/
inductive Verbosity where
  | nothing
  | upTo (level : Level)
  | everything
  deriving Repr, DecidableEq

/-- The rank of a level. The graver an event is, the lower its rank. -/
def Level.rank : Level → Nat
  | .error => 1
  | .warn => 2
  | .info => 3
  | .debug => 4

namespace Verbosity

/-- Whether events of a level are shown. -/
def shows (verbosity : Verbosity) (level : Level) : Bool :=
  match verbosity with
  | .nothing => false
  | .upTo limit => level.rank ≤ limit.rank
  | .everything => true

/-- The names of verbosities, from the least on. The number of each is its place. -/
def named : List (String × Verbosity) :=
  [("off", .nothing), ("error", .upTo .error), ("warn", .upTo .warn), ("info", .upTo .info),
    ("debug", .upTo .debug), ("trace", .everything)]

/-- The number that digits write, after a plus or not. -/
def readNumber? (text : List Char) : Option Nat :=
  let digits := match text with
    | '+' :: rest => rest
    | _ => text
  if digits.isEmpty || !digits.all Char.isDigit then none
  else some (digits.foldl (fun value digit => value * 10 + (digit.toNat - '0'.toNat)) 0)

/-- The verbosity that a number or a name stands for, in whatever case. -/
def read? (text : List Char) : Option Verbosity :=
  match readNumber? text with
  | some number => (named[number]?).map Prod.snd
  | none => named.lookup (String.ofList (text.map Char.toLower))

end Verbosity

/-- One rule about events. A field of which the value is given is one that no event has. -/
structure LogDirective where
  target? : Option String
  spans : Bool
  fields : List String
  verbosity : Verbosity
  deriving Repr, DecidableEq

namespace LogDirective

/-- Whether a directive may begin with a character. -/
def canBegin (character : Char) : Bool :=
  character.isAlphanum || 127 < character.toNat || [':', '-', '_'].contains character

/-- The verbosity after an equals sign. -/
def readLevel? (text : List Char) : Option Verbosity :=
  if text.isEmpty then some .everything else Verbosity.read? text

/-- What may follow a span: nothing, or an equals sign and a verbosity. -/
def readAfterSpan? : List Char → Option Verbosity
  | [] => some .everything
  | '=' :: rest => readLevel? rest
  | _ => none

/-- What stands after a bracket: the name of a span, and a field between braces. -/
def readSpan? (target? : Option String) (text : List Char) : Option LogDirective :=
  let name := text.takeWhile fun c => c ≠ ']' && c ≠ '\x7b'
  match text.drop name.length with
  | ']' :: rest =>
    (readAfterSpan? rest).map fun verbosity => ⟨target?, true, [], verbosity⟩
  | '\x7b' :: rest =>
    let field := rest.takeWhile (· ≠ '\x7d')
    match field, rest.drop field.length with
    | _ :: _, '\x7d' :: ']' :: later =>
      (readAfterSpan? later).map fun verbosity =>
        ⟨target?, !name.isEmpty, [String.ofList field], verbosity⟩
    | _, _ => none
  | _ => none

/-- The directive that a text writes. -/
def read? (text : List Char) : Option LogDirective :=
  match Text.trim text with
  | [] => none
  | '[' :: rest => readSpan? none rest
  | first :: rest =>
    if canBegin first then
      let trimmed := first :: rest
      let name := trimmed.takeWhile fun c => c ≠ '=' && c ≠ '['
      match trimmed.drop name.length with
      | '=' :: level =>
        (readLevel? level).map fun verbosity =>
          ⟨some (String.ofList name), false, [], verbosity⟩
      | '[' :: span => readSpan? (some (String.ofList name)) span
      | _ =>
        match Verbosity.read? name with
        | some verbosity => some ⟨none, false, [], verbosity⟩
        | none => some ⟨some (String.ofList name), false, [], .everything⟩
    else
      none

/-- The names of the fields of an event. -/
def fieldsOf (event : LogEvent) : List String :=
  if event.title?.isSome then ["message", "title"] else ["message"]

/-- Whether a directive applies to an event. -/
def appliesTo (directive : LogDirective) (event : LogEvent) : Bool :=
  !directive.spans
    && directive.target?.all (fun target => target.toList.isPrefixOf event.origin.target.toList)
    && directive.fields.all (fieldsOf event).contains

/-- How particular a directive is: the longer its target the more, then the more fields. -/
def particularity (directive : LogDirective) : Nat × Nat :=
  ((directive.target?.map (·.length + 1)).getD 0, directive.fields.length)

/-- Of two directives the more particular one. The later one counts of two that are equally
particular. -/
def moreParticular (earlier later : LogDirective) : LogDirective :=
  let one := earlier.particularity
  let other := later.particularity
  if other.1 < one.1 || (other.1 = one.1 && other.2 < one.2) then earlier else later

end LogDirective

/-- Which events are shown. -/
structure LogFilter where
  directives : List LogDirective
  deriving Repr, DecidableEq

namespace LogFilter

/-- A filter that shows all events up to some level. -/
def upTo (level : Level) : LogFilter :=
  ⟨[⟨none, false, [], .upTo level⟩]⟩

/-- The parts of a text between commas. -/
def parts : List Char → List (List Char)
  | [] => [[]]
  | character :: rest =>
    if character = ',' then [] :: parts rest
    else
      match parts rest with
      | [] => [[character]]
      | part :: more => (character :: part) :: more

/-- The filter that a text writes. Without any directive only errors are shown. -/
def read? (text : String) : Option LogFilter := do
  let directives ← ((parts text.toList).filter (!·.isEmpty)).mapM LogDirective.read?
  return if directives.isEmpty then upTo .error else ⟨directives⟩

/-- The filter that a setting asks for. A setting that is none asks for what is worth
knowing. -/
def ofSetting (setting? : Option String) : LogFilter :=
  (setting?.bind read?).getD (upTo .info)

/-- Whether an event is shown. -/
def shows (filter : LogFilter) (event : LogEvent) : Bool :=
  match filter.directives.filter (·.appliesTo event) with
  | [] => false
  | first :: rest =>
    (rest.foldl LogDirective.moreParticular first).verbosity.shows event.level

end LogFilter

/-- An event as a line of the log. -/
def LogEvent.line (event : LogEvent) : String :=
  let name := event.level.name
  String.ofList (List.replicate (5 - name.length) ' ') ++ name ++ " " ++ event.origin.target
    ++ ": " ++ event.message

end CompilePlayground
