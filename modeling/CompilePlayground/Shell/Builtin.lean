import CompilePlayground.Shell.Condition
import CompilePlayground.Shell.Fields
import CompilePlayground.Shell.Format

namespace CompilePlayground.Shell

open Posix

/-!
# Commands of the shell itself

These are the commands that the shell carries out without another program, as far as they do
not run commands in turn. Each gives the status that it leaves.
-/

namespace Builtin

/-- The code that says that a process was ended by a signal, or the code it ended with. -/
def codeOf : ExitStatus → Nat
  | .code value => value
  | .signal number => 128 + number

/-- Say how a child was ended by a signal, unless that goes without saying. -/
def mention (status : ExitStatus) : Run Unit := do
  match status with
  | .signal number =>
    if number != 2 && number != Signal.pipe then
      discard <| Run.write Run.errorDescriptor ((Signal.description number).toList ++ ['\n'])
    else pure ()
  | .code _ => pure ()

/-- Whether a text is a name. -/
def isName (text : Octets) : Bool :=
  match text with
  | [] => false
  | c :: _ =>
    (c.isAlpha || c = '_') && text.all fun d => d.isAlphanum || d = '_'

/-- The natural number that a text stands for. -/
def natural? (text : Octets) : Option Nat :=
  if text.isEmpty || !text.all Char.isDigit then none else (String.ofList text).toNat?

/-- A number that an argument has to stand for. -/
def number (text : Octets) : Run Nat :=
  match natural? text with
  | some value => pure value
  | none => Run.fail ("Illegal number: ".toList ++ text)

/-- Write arguments with their escapes replaced. -/
def echo (arguments : List Octets) : Run Nat := do
  if ← Run.write Run.outputDescriptor (Format.echo arguments) then
    pure 0
  else
    Run.warn "echo: I/O error".toList
    pure 1

/-- Write arguments by a format. -/
def printf (arguments : List Octets) : Run Nat := do
  let words := match arguments with
    | ['-', '-'] :: rest => rest
    | rest => rest
  match words with
  | [] => Run.fail "usage: printf format [arg ...]".toList
  | format :: rest => do
    let written := Format.formatted format rest
    written.complaints.forM Run.warn
    match written.refusal? with
    | some text => do
      Run.warn text
      discard <| Run.write Run.outputDescriptor written.output
      pure 2
    | none => do
      discard <| Run.write Run.outputDescriptor written.output
      pure (if written.complaints.isEmpty then 0 else 1)

/-- Test a condition. -/
def test (words : List Octets) : Run Nat := do
  match Condition.ofWords words with
  | .error text => Run.fail text
  | .ok condition => do
    match ← condition.holds with
    | .ok value => pure (if value then 0 else 1)
    | .error text => Run.fail text

/-- Test a condition that stands in brackets. -/
def bracket (words : List Octets) : Run Nat :=
  if words.getLast? = some [']'] then test words.dropLast
  else Run.fail "missing ]".toList

/-- The steps of a name without those that lead nowhere or back. -/
def simplified (name : Octets) : Octets :=
  let steps := (Path.parts (Text.Octets.toBytes name)).foldl
    (fun taken step =>
      if step.isEmpty || step = Path.here then taken
      else if step = Path.above then taken.dropLast
      else taken ++ [step])
    []
  Text.Octets.ofBytes (Path.write steps)

/-- Go to another directory. -/
def changeDirectory (arguments : List Octets) : Run Nat := do
  let words := arguments.filter fun word =>
    word != ['-', 'L'] && word != ['-', 'P'] && word != ['-', '-']
  let session ← get
  let target := match words with
    | [] => (session.value? "HOME".toList).getD []
    | ['-'] :: _ => (session.value? "OLDPWD".toList).getD []
    | word :: _ => word
  if target.isEmpty then
    pure 0
  else do
    let whole := if target.head? = some '/' then target else session.directory ++ '/' :: target
    let name := simplified whole
    match ← Run.ask (.changeDirectory (Text.Octets.toBytes name)) with
    | .ok _ => do
      modify fun session =>
        { (session.assign "OLDPWD".toList session.directory).assign "PWD".toList name with
          directory := name }
      if words = [['-']] then
        discard <| Run.write Run.outputDescriptor (name ++ ['\n'])
      pure 0
    | .error _ => Run.fail ("can't cd to ".toList ++ target)

/-- Write the name of the directory. -/
def printDirectory : Run Nat := do
  discard <| Run.write Run.outputDescriptor ((← get).directory ++ ['\n'])
  pure 0

/-- The number of the signal that a text names. -/
def signal? (text : Octets) : Option Nat :=
  match natural? text with
  | some number => if number ≤ Signal.greatest then some number else none
  | none =>
    if text = "EXIT".toList then some 0
    else Signal.ofName? (String.ofList (text.map Char.toUpper))

/-- How sending a signal is used. -/
def killUsage : Octets :=
  ("Usage: kill [-s sigspec | -signum | -sigspec] [pid | job]... or\n"
    ++ "kill -l [exitstatus]").toList

/-- The process or group that an argument names. -/
def target (text : Octets) : Run Int := do
  match text with
  | '-' :: digits => return -((← number digits : Nat) : Int)
  | '%' :: digits =>
    let session ← get
    match session.children[(natural? digits).getD 1 - 1]? with
    | some child => pure (-(child : Int))
    | none => Run.fail ("No such job: ".toList ++ text)
  | digits => return ((← number digits : Nat) : Int)

/-- Send a signal to what the arguments name. -/
def sendAll (signal : Nat) (arguments : List Octets) : Run Nat := do
  let mut status := 0
  for argument in arguments do
    match ← Run.ask (.signal (← target argument) signal) with
    | .ok _ => pure ()
    | .error error => do
      Run.warn (Run.describe error ++ ['\n'])
      status := 1
  pure status

/-- Send a signal. -/
def kill (arguments : List Octets) : Run Nat := do
  match arguments with
  | [] => Run.fail killUsage
  | ['-', 'l'] :: [] => do
    let lines := Signal.names.map fun name => name ++ "\n"
    discard <| Run.write Run.outputDescriptor (String.join lines).toList
    pure 0
  | ['-', 'l'] :: code :: _ => do
    let value ← number code
    let name := (Signal.name? (if value > 128 then value - 128 else value)).getD ""
    discard <| Run.write Run.outputDescriptor (name.toList ++ ['\n'])
    pure 0
  | ['-', 's'] :: name :: targets =>
    match signal? name with
    | some signal => if targets.isEmpty then Run.fail killUsage else sendAll signal targets
    | none => Run.fail ("invalid signal number or name: ".toList ++ name)
  | ['-', '-'] :: targets =>
    if targets.isEmpty then Run.fail killUsage else sendAll Signal.terminate targets
  | ('-' :: name) :: targets =>
    match signal? name with
    | some signal =>
      let named := match targets with
        | ['-', '-'] :: rest => rest
        | rest => rest
      if named.isEmpty then Run.fail killUsage else sendAll signal named
    | none => Run.fail ("Illegal option -".toList ++ name.take 1)
  | targets => sendAll Signal.terminate targets

/-- Wait for one child, with the code that it ends with, and say how a signal ended it if that
is wanted. -/
def waitFor (mentions : Bool) (child : Nat) : Run Nat := do
  match ← Run.ask (.waitChild (some child)) with
  | .ok (_, status) => do
    if mentions then mention status
    modify fun session =>
      { session with
        children := session.children.filter fun other => other != child,
        endings := (child, status) :: session.endings }
    pure (codeOf status)
  | .error _ =>
    match (← get).endings.lookup child with
    | some status => pure (codeOf status)
    | none => pure 127

/-- Wait for children: for those that are named, or for all. -/
def wait (arguments : List Octets) : Run Nat := do
  match arguments with
  | [] => do
    for child in (← get).children do
      discard <| waitFor false child
    pure 0
  | _ => do
    let mut status := 0
    for argument in arguments do
      match argument with
      | '%' :: _ => status ← waitFor true (← target argument).natAbs
      | _ => status ← waitFor true (← number argument)
    pure status

/-- Read characters up to the end of a line, with whether each of them was masked, and whether
the line was ended. The bound counts characters. -/
def readLine (masks : Bool) : Nat → Run (List Symbol × Bool)
  | 0 => pure ([], true)
  | bound + 1 => do
    match ← Run.ask (.read 0 1) with
    | .error _ => pure ([], false)
    | .ok bytes =>
      match Text.Octets.ofBytes bytes with
      | [] => pure ([], false)
      | '\n' :: _ => pure ([], true)
      | '\x00' :: _ => readLine masks bound
      | '\\' :: _ =>
        if masks then do
          match ← Run.ask (.read 0 1) with
          | .error _ => pure ([], false)
          | .ok more =>
            match Text.Octets.ofBytes more with
            | [] => pure ([], false)
            | '\n' :: _ => readLine masks bound
            | c :: _ => do
              let (rest, ended) ← readLine masks bound
              pure (⟨c, true⟩ :: rest, ended)
        else do
          let (rest, ended) ← readLine masks bound
          pure (⟨'\\', false⟩ :: rest, ended)
      | c :: _ => do
        let (rest, ended) ← readLine masks bound
        pure (⟨c, false⟩ :: rest, ended)

/-- How many characters a line may have that is read. -/
def lineLimit : Nat := 100000000

/-- The values for some names from a line: one field for each, and all that is left for the
last. -/
def shareOut (separators : Octets) : List Octets → List Symbol → List (Octets × Octets)
  | [], _ => []
  | [name], line =>
    let isBlank (symbol : Symbol) : Bool :=
      !symbol.isQuoted && separators.contains symbol.character && symbol.character.isWhitespace
    let trimmed := ((line.dropWhile isBlank).reverse.dropWhile isBlank).reverse
    [(name, trimmed.map Symbol.character)]
  | name :: names, line =>
    let isSeparator (symbol : Symbol) : Bool :=
      !symbol.isQuoted && separators.contains symbol.character
    let isBlank (symbol : Symbol) : Bool :=
      isSeparator symbol && symbol.character.isWhitespace
    let begun := line.dropWhile isBlank
    let field := begun.takeWhile fun symbol => !isSeparator symbol
    let after := (begun.drop field.length).dropWhile isBlank
    let rest := match after with
      | symbol :: left =>
        if isSeparator symbol && (begun.drop field.length).head? = some symbol then left
        else after
      | [] => []
    (name, field.map Symbol.character) :: shareOut separators names rest

/-- The characters that part fields. -/
def separators (session : Session) : Octets :=
  (session.value? "IFS".toList).getD [' ', '\t', '\n']

/-- Read a line into variables. -/
def read (arguments : List Octets) : Run Nat := do
  let masks := !arguments.contains ['-', 'r']
  let names := arguments.filter fun word => word != ['-', 'r'] && word != ['-', '-']
  match names.find? fun name => !isName name with
  | some ('-' :: letter :: _) => Run.fail ("Illegal option -".toList ++ [letter])
  | some name => Run.fail (name ++ ": bad variable name".toList)
  | none => pure ()
  if names.isEmpty then
    Run.fail "arg count".toList
  else do
    let (line, ended) ← readLine masks lineLimit
    for (name, value) in shareOut (separators (← get)) names line do
      Run.assign name value
    pure (if ended then 0 else 1)

/-- A name with the value that is given to it behind an equals sign. -/
def splitAssignment (word : Octets) : Octets × Option Octets :=
  let name := word.takeWhile (· != '=')
  match word.drop name.length with
  | _ :: value => (name, some value)
  | [] => (name, none)

/-- Set variables and give them another property. -/
def declare (mark : Session → Octets → Session) (arguments : List Octets) : Run Nat := do
  for word in arguments do
    if word != ['-', 'p'] && word != ['-', '-'] then
      let (name, value?) := splitAssignment word
      if !isName name then
        Run.fail (name ++ ": bad variable name".toList)
      match value? with
      | some value => Run.assign name value
      | none => pure ()
      modify fun session => mark session name
  pure 0

/-- Let variables belong to the function that is carried out. -/
def hideNames (arguments : List Octets) : Run Nat := do
  if !(← get).isInFunction then
    Run.fail "not in a function".toList
  for word in arguments do
    let (name, value?) := splitAssignment word
    if !isName name then
      Run.fail (name ++ ": bad variable name".toList)
    modify fun session => session.hide name
    match value? with
    | some value => Run.assign name value
    | none => pure ()
  pure 0

/-- Pass variables on to the programs that are run. -/
def exportNames (arguments : List Octets) : Run Nat :=
  declare
    (fun session name =>
      if (session.value? name).isSome then session.exportName name
      else (session.assign name []).exportName name)
    arguments

/-- Keep variables from being changed. -/
def fixNames (arguments : List Octets) : Run Nat :=
  declare
    (fun session name =>
      let old := session.bindings.lookup name
      { session with
        bindings :=
          (name,
            { value := (old.map Variable.value).getD [],
              isExported := (old.map Variable.isExported).getD false,
              isFixed := true })
            :: session.bindings.filter fun entry => entry.1 != name })
    arguments

/-- Forget variables or functions. -/
def unsetNames (arguments : List Octets) : Run Nat := do
  let ofFunctions := arguments.head? = some ['-', 'f']
  for word in arguments do
    if word != ['-', 'f'] && word != ['-', 'v'] then
      if ofFunctions then
        modify fun session =>
          { session with functions := session.functions.filter fun entry => entry.1 != word }
      else if (← get).isFixed word then
        Run.fail (word ++ ": is read only".toList)
      else
        modify fun session => session.unset word
  pure 0

/-- Drop the first arguments of the shell. -/
def shift (arguments : List Octets) : Run Nat := do
  let count ← (match arguments with
    | [] => pure 1
    | word :: _ => number word)
  if (← get).arguments.length < count then
    Run.fail "can't shift that many".toList
  else do
    modify fun session => { session with arguments := session.arguments.drop count }
    pure 0

/-- Turn a switch. -/
def turn (switches : Switches) (isOn : Bool) (letter : Char) : Option Switches :=
  match letter with
  | 'e' => some { switches with stopOnFailure := isOn }
  | 'u' => some { switches with stopOnUnset := isOn }
  | 'x' => some { switches with trace := isOn }
  | 'f' => some { switches with keepPatterns := isOn }
  | _ =>
    let known := ['a', 'b', 'C', 'h', 'I', 'm', 'n', 'v', 'V', 'E', 'i', 's']
    if known.contains letter then some switches else none

/-- The letter of the switch with a name. -/
def letterOf? (name : Octets) : Option Char :=
  match String.ofList name with
  | "errexit" => some 'e'
  | "nounset" => some 'u'
  | "xtrace" => some 'x'
  | "noglob" => some 'f'
  | "allexport" => some 'a'
  | "noclobber" => some 'C'
  | "noexec" => some 'n'
  | "verbose" => some 'v'
  | "monitor" => some 'm'
  | "notify" => some 'b'
  | "vi" => some 'V'
  | "emacs" => some 'E'
  | "interactive" => some 'i'
  | "stdin" => some 's'
  | "ignoreeof" => some 'I'
  | _ => none

/-- Turn the switches that letters name. -/
def turnAll (isOn : Bool) (letters : Octets) : Run Unit :=
  letters.forM fun letter => do
    match turn (← get).switches isOn letter with
    | some switches => modify fun session => { session with switches }
    | none => Run.fail ("Illegal option -".toList ++ [letter])

/-- Turn switches by what the first arguments say. The arguments behind them, if any, become
those of the shell. The bound counts arguments. -/
def set : Nat → List Octets → Run Nat
  | 0, _ => pure 0
  | _, [] => pure 0
  | bound + 1, word :: rest =>
    match word with
    | ['-', '-'] => do
      modify fun session => { session with arguments := rest }
      pure 0
    | ['-', 'o'] =>
      match rest with
      | [] => pure 0
      | name :: more =>
        match letterOf? name with
        | some letter => do
          turnAll true [letter]
          set bound more
        | none => Run.fail ("Illegal option -o ".toList ++ name)
    | ['+', 'o'] =>
      match rest with
      | [] => pure 0
      | name :: more =>
        match letterOf? name with
        | some letter => do
          turnAll false [letter]
          set bound more
        | none => Run.fail ("Illegal option -o ".toList ++ name)
    | '-' :: letters =>
      if letters.isEmpty then do
        modify fun session => { session with arguments := rest }
        pure 0
      else do
        turnAll true letters
        set bound rest
    | '+' :: letters => do
      turnAll false letters
      set bound rest
    | _ => do
      modify fun session => { session with arguments := word :: rest }
      pure 0

/-- Say what is done about one signal. -/
def trapOne (action? : Option Octets) (name : Octets) : Run Nat := do
  match signal? name with
  | none => do
    discard <| Run.write Run.errorDescriptor
      ("trap: ".toList ++ name ++ ": bad trap\n".toList)
    pure 1
  | some signal => do
    modify fun session =>
      let others := session.traps.filter fun entry => entry.1 != signal
      { session with
        traps := match action? with
          | some action => (signal, action) :: others
          | none => others }
    if signal != 0 then
      Run.ask (.setDisposition signal (match action? with
        | some [] => .ignore
        | some _ => .record
        | none => .standard))
    pure 0

/-- Say what is done about signals, or at the end of the shell. -/
def trap (arguments : List Octets) : Run Nat := do
  let words := match arguments with
    | ['-', '-'] :: rest => rest
    | rest => rest
  match words with
  | [] => do
    for (signal, action) in (← get).traps.mergeSort fun a b => a.1 ≤ b.1 do
      let name := if signal = 0 then "EXIT" else (Signal.name? signal).getD ""
      discard <| Run.write Run.outputDescriptor
        ("trap -- '".toList ++ action ++ "' ".toList ++ name.toList ++ ['\n'])
    pure 0
  | [name] => trapOne none name
  | action :: names => do
    let isNumber := (natural? action).isSome
    let mut status := 0
    for name in (if isNumber then words else names) do
      let result ← trapOne (if action = ['-'] || isNumber then none else some action) name
      if result != 0 then
        status := result
    pure status

/-- The commands that stop the shell when they are used wrongly, and whose assignments last. -/
def special : List Octets :=
  [":", ".", "break", "continue", "eval", "exec", "exit", "export", "readonly", "return", "set",
    "shift", "times", "trap", "unset"].map String.toList

/-- All commands that the shell carries out itself. -/
def names : List Octets :=
  special ++ ["[", "alias", "bg", "cd", "command", "echo", "false", "fg", "getopts", "hash",
    "jobs", "kill", "local", "printf", "pwd", "read", "test", "true", "type", "ulimit", "umask",
    "unalias", "wait"].map String.toList

/-- Write a text that is always the same. -/
def say (text : String) : Run Nat := do
  discard <| Run.write Run.outputDescriptor text.toList
  pure 0

/-- Carry out a command that runs no others, if there is one with that name. -/
def simple? (name : Octets) (arguments : List Octets) : Option (Run Nat) :=
  match String.ofList name with
  | ":" => some (pure 0)
  | "true" => some (pure 0)
  | "false" => some (pure 1)
  | "echo" => some (echo arguments)
  | "printf" => some (printf arguments)
  | "test" => some (test arguments)
  | "[" => some (bracket arguments)
  | "cd" => some (changeDirectory arguments)
  | "pwd" => some printDirectory
  | "kill" => some (kill arguments)
  | "wait" => some (wait arguments)
  | "read" => some (read arguments)
  | "export" => some (exportNames arguments)
  | "readonly" => some (fixNames arguments)
  | "local" => some (hideNames arguments)
  | "unset" => some (unsetNames arguments)
  | "shift" => some (shift arguments)
  | "set" => some (set (arguments.length + 1) arguments)
  | "trap" => some (trap arguments)
  | "times" => some (say "0m0.00s 0m0.00s\n0m0.00s 0m0.00s\n")
  | "alias" => some (pure 0)
  | "unalias" => some (pure 0)
  | "hash" => some (pure 0)
  | "jobs" => some (pure 0)
  | "umask" => some (if arguments.isEmpty then say "0022\n" else pure 0)
  | "ulimit" => some (if arguments.isEmpty then say "unlimited\n" else pure 0)
  | _ => none

end Builtin

end CompilePlayground.Shell
