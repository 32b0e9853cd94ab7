import CompilePlayground.Options.Flag
import CompilePlayground.Text.Printable
import CompilePlayground.Text.Similarity

namespace CompilePlayground.Options

/-!
# Command lines that give no configuration

What can be wrong with the options, and the words for it. To ask for help is among it:
it ends the program with the list of options.
-/

/-- Why a text is no number. -/
inductive NumberFault where
  | empty
  | digit
  | large
  | small
  | range (value : Int)
  deriving Repr, DecidableEq

/-- The words for why a text is no number. -/
def NumberFault.message : NumberFault → String
  | .empty => "cannot parse integer from empty string"
  | .digit => "invalid digit found in string"
  | .large => "number too large to fit in target type"
  | .small => "number too small to fit in target type"
  | .range value => toString value ++ " is not in 0..=65535"

/-- Why the options give no configuration. `used` are the usages of what was given. -/
inductive Failure where
  | help
  | missing (flag : Flag)
  | notSwitch (value : String)
  | notText
  | notNumber (flag : Flag) (value : String) (fault : NumberFault)
  | repeated (flag : Flag)
  | unneeded (option : String) (value : String) (used : List String)
  | unknown (argument : String) (similar? : Option String) (used : List String)
  deriving Repr, DecidableEq

namespace Failure

/-- The words for the values of a switch. -/
def switchValues : List String :=
  ["true", "false"]

/-- The line that lists the values of a switch, if the option is one. -/
def valuesLine (flag : Flag) : String :=
  if flag.takesValue then ""
  else "\n  [possible values: " ++ String.intercalate ", " switchValues ++ "]"

/-- The hint at something similar. -/
def tip (what : String) (similar? : Option String) : String :=
  match similar? with
  | none => ""
  | some similar => "\n\n  tip: a similar " ++ what ++ " exists: '" ++ similar ++ "'"

/-- The name of the program. -/
def programName : String :=
  "compile-relay"

/-- The line that says how the program is called. -/
def usageLine (used : List String) : String :=
  "Usage: " ++ programName ++ " " ++
    (if used.isEmpty then "[OPTIONS]" else String.intercalate " " used)

/-- The usages without those that came before. -/
def distinct (used : List String) : List String :=
  used.foldl (fun found usage => if found.contains usage then found else found ++ [usage]) []

/-- What is wrong, without the way out. -/
def description : Failure → String
  | .help => ""
  | .missing flag =>
      "a value is required for '" ++ flag.usage ++ "' but none was supplied" ++ valuesLine flag
  | .notSwitch value =>
      "invalid value '" ++ value ++ "' for '" ++ Flag.allowRoot.usage ++ "'" ++
        valuesLine .allowRoot ++ tip "value" (Text.mostAlike? value switchValues)
  | .notText =>
      "invalid UTF-8 was detected in one or more arguments\n\n" ++ usageLine []
  | .notNumber flag value fault =>
      "invalid value '" ++ value ++ "' for '" ++ flag.usage ++ "': " ++ fault.message
  | .repeated flag =>
      "the argument '" ++ flag.usage ++ "' cannot be used multiple times\n\n" ++ usageLine []
  | .unneeded option value used =>
      "unexpected value '" ++ value ++ "' for '" ++ option ++
        "' found; no more were expected\n\n" ++ usageLine (distinct used)
  | .unknown argument similar? used =>
      "unexpected argument '" ++ argument ++ "' found" ++ tip "argument" similar? ++ "\n\n" ++
        usageLine (distinct used)

/-- The value of a variable as the help shows it; lines after the first are indented. -/
def shownValue (value? : Option Bytes) : String :=
  (Text.Utf8.decodeLossy (value?.getD [])).foldl
    (fun shown character =>
      if character == '\n' then shown ++ "\n          " else shown.push character)
    ""

/-- What the help says about an option. -/
def optionHelp (environment : Environment) (flag : Flag) : String :=
  let purpose := if flag.purpose.isEmpty then "" else flag.purpose ++ " "
  let fallback := if flag.takesValue then " [default: " ++ flag.fallback ++ "]" else ""
  "      " ++ flag.usage ++ "\n          " ++ purpose ++ "[env: " ++ flag.environmentName ++ "=" ++
    shownValue (environment flag) ++ "]" ++ fallback ++ "\n"

/-- The help. -/
def helpText (environment : Environment) : String :=
  "Compile pasted source code and return the compiler output\n\n" ++ usageLine [] ++
    "\n\nOptions:\n" ++ String.join (Flag.all.map (optionHelp environment)) ++
    "  -h, --help\n          Print help\n"

/-- The words for a failure. -/
def message (environment : Environment) (failure : Failure) : String :=
  Text.printable
    (match failure with
      | .help => helpText environment
      | other => "error: " ++ other.description ++ "\n\nFor more information, try '--help'.\n")

/-- Whether the words go to the error output, which a failure other than a call for help
does. -/
def isError (failure : Failure) : Bool :=
  failure != .help

/-- The status that the program ends with. -/
def exitCode (failure : Failure) : Nat :=
  if failure.isError then 2 else 0

end Failure

end CompilePlayground.Options
