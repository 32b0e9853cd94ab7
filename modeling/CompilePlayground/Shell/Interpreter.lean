import CompilePlayground.Shell.Arithmetic
import CompilePlayground.Shell.Builtin
import CompilePlayground.Shell.Reader
import CompilePlayground.Shell.Redirect

namespace CompilePlayground.Shell

open Posix

/-!
# Carrying out commands

`Interpreter.execute` carries out a command, and `Interpreter.runText` the commands of a text
line by line. Both take a bound on how deep commands may be nested and how often loops may go
round, which no sensible script reaches.
-/

namespace Interpreter

/-- The pause between two rounds of a loop, in nanoseconds. -/
def loopPause : Nat := 10000

/-- Set the status that the last command has left. -/
def leave (status : Nat) : Run Unit :=
  modify fun session => { session with status }

/-- Read all that a descriptor still has to give. The bound counts portions. -/
def readAll (descriptor : Nat) : Nat → Run Bytes
  | 0 => pure []
  | bound + 1 => do
    match ← Run.ask (.read descriptor 1048576) with
    | .ok [] => pure []
    | .ok bytes => return bytes ++ (← readAll descriptor bound)
    | .error _ => pure []

/-- How many portions may be read. -/
def portionLimit : Nat := 1000000

/-- A text without the line ends behind it. -/
def withoutLineEnds (text : Octets) : Octets :=
  (text.reverse.dropWhile (· = '\n')).reverse

/-- The names in a directory that fit a pattern. A name that begins with a full stop has to be
met by one. -/
def fitting (directory : Octets) (pattern : List Symbol) : Run (List Octets) := do
  let place := if directory.isEmpty then Path.here else Text.Octets.toBytes directory
  match ← Run.ask (.list place) with
  | .error _ => pure []
  | .ok names =>
    let shapes := Pattern.shapes pattern
    let showsHidden := pattern.head?.any fun symbol => symbol.character = '.'
    let all := if showsHidden then Path.here :: Path.above :: names else names
    pure ((all.map Text.Octets.ofBytes).filter fun name =>
      (showsHidden || name.head? != some '.') && Pattern.fits shapes name)

/-- The steps of a pattern, with the slashes behind them. -/
def patternSteps (symbols : List Symbol) : List (List Symbol × Octets) :=
  let rec go : Nat → List Symbol → List (List Symbol × Octets)
    | 0, _ => []
    | _, [] => []
    | bound + 1, rest =>
      let step := rest.takeWhile fun symbol => symbol.character != '/'
      let slashes := (rest.drop step.length).takeWhile fun symbol => symbol.character = '/'
      (step, slashes.map Symbol.character)
        :: go bound (rest.drop (step.length + slashes.length))
  go (symbols.length + 1) symbols

/-- The names that a pattern leads to from some directory. -/
def matching : List (List Symbol × Octets) → Octets → Run (List Octets)
  | [], sofar => pure [sofar]
  | (step, slashes) :: rest, sofar => do
    if Pattern.isPattern step then do
      let names ← fitting sofar step
      let found ← names.mapM fun name => do
        let place := sofar ++ name
        let fits ← (if slashes.isEmpty then pure true
          else return (← Condition.status? true place).any fun status =>
            status.kind = .directory)
        if fits then matching rest (place ++ slashes) else pure []
      pure found.flatten
    else do
      let place := sofar ++ step.map Symbol.character
      if rest.isEmpty then
        match ← Condition.status? false (place ++ slashes) with
        | some _ => pure [place ++ slashes]
        | none => if place.isEmpty then pure [slashes] else pure []
      else
        matching rest (place ++ slashes)

/-- What a field stands for: itself, or the names of files when it is a pattern that fits
any. -/
def filesOf (field : List Symbol) : Run (List Octets) := do
  let text := field.map Symbol.character
  if (← get).switches.keepPatterns || !Pattern.isPattern field then
    pure [text]
  else do
    match ← matching (patternSteps field) [] with
    | [] => pure [text]
    | found => pure (found.mergeSort fun a b => Text.Octets.toBytes a ≤ Text.Octets.toBytes b)

/-- Become a process of its own: nothing is done any more about signals that was to be done
before, and there are no children yet. -/
def enter : Run Unit := do
  for (signal, action) in (← get).traps do
    if signal != 0 && !action.isEmpty then
      Run.ask (.setDisposition signal .standard)
  modify fun session =>
    { session with
      traps := session.traps.filter fun entry => entry.2.isEmpty && entry.1 != 0,
      children := [], endings := [], loops := 0 }

/-- Wait for a child that was not split off to run on its own. -/
def awaitChild (child : Nat) : Run Nat := do
  match ← Run.ask (.waitChild (some child)) with
  | .ok (_, status) => do
    Builtin.mention status
    pure (Builtin.codeOf status)
  | .error _ => pure 127

/-- The names under which a program may be found. -/
def candidates (session : Session) (name : Octets) : List Octets :=
  if name.contains '/' then [name]
  else
    let path := Text.Octets.toBytes ((session.value? "PATH".toList).getD [])
    let rec parts : Bytes → List Bytes
      | [] => [[]]
      | byte :: rest =>
        if byte = 58 then [] :: parts rest
        else
          match parts rest with
          | [] => [[byte]]
          | part :: more => (byte :: part) :: more
    (parts path).map fun directory =>
      Text.Octets.ofBytes (Path.join directory (Text.Octets.toBytes name))

/-- The first of some names that a plain file has. -/
def firstPlain : List Octets → Run (Option Octets)
  | [] => pure none
  | name :: rest => do
    match ← Condition.status? true name with
    | some status => if status.kind = .plain then pure (some name) else firstPlain rest
    | none => firstPlain rest

/-- The name of the program to run. A name with a slash stands for itself. -/
def program? (name : Octets) : Run (Option Octets) := do
  if name.contains '/' then pure (some name)
  else if name.isEmpty then pure none
  else firstPlain (candidates (← get) name)

/-- Turn into another program. The value is the code to end with when that cannot be done. -/
def become (path name : Octets) (arguments : List Octets) : Run Nat := do
  let environment := (← get).environment
  let words := (name :: arguments).map Text.Octets.toBytes
  let error ← Run.ask (.execute (Text.Octets.toBytes path) ⟨words, environment⟩)
  if error = .notExecutable then
    let shell := Text.Octets.ascii "/bin/sh"
    discard <| Run.ask (.execute shell
      ⟨shell :: Text.Octets.toBytes path :: words.drop 1, environment⟩)
    pure 126
  else do
    let isMissing := error = .notFound || error = .notDirectory
    Run.warn (name ++ ": ".toList
      ++ (if isMissing then "not found".toList else Run.describe error))
    pure (if isMissing then 127 else 126)

/-- Run a program and wait for it, or turn into it when nothing is to follow. -/
def launch (isLast : Bool) (name : Octets) (arguments : List Octets) : Run Unit := do
  match ← program? name with
  | none => do
    Run.warn (name ++ ": not found".toList)
    leave 127
  | some path =>
    if isLast && (← get).traps.isEmpty then do
      let code ← become path name arguments
      throw (.exit code)
    else do
      let child ← Run.splitOff (do
        enter
        become path name arguments)
      leave (← awaitChild child)

/-- Show a command before it is carried out. -/
def showCommand (words : List Octets) : Run Unit := do
  if (← get).switches.trace then
    discard <| Run.write Run.errorDescriptor
      ("+ ".toList ++ Fields.join [' '] words ++ ['\n'])

/-- The parameter is not set, and something depends on it. -/
def missing (name : Octets) (isNull : Bool) (message : Octets) : Run Octets :=
  let text :=
    if !message.isEmpty then message
    else ("parameter not set" ++ if isNull then " or null" else "").toList
  Run.fail (name ++ ": ".toList ++ text)

/-- The value of a parameter that is to be set, or an empty text. -/
def required (name : Octets) : Run Octets := do
  let session ← get
  match session.parameter? name with
  | some value => pure value
  | none =>
    if session.switches.stopOnUnset && name != ['@'] && name != ['*'] then
      missing name false []
    else pure []

/-- Leave the shell when a command has failed and that is to end it. -/
def checkFailure : Run Unit := do
  let session ← get
  if session.status != 0 && session.switches.stopOnFailure && !session.isTested then
    throw (.exit session.status)

/-- Do something while failures are looked at and so do not end the shell. -/
def tested {α : Type} (run : Run α) : Run α := do
  let before := (← get).isTested
  modify fun session => { session with isTested := true }
  run.afterwards (modify fun session => { session with isTested := before })

/-- Text that is read from a file as it is needed. -/
structure Input where
  source : Source
  descriptor? : Option Nat

/-- Read on when what is left is not a whole line. The bound counts portions. -/
def Input.fill (input : Input) : Nat → Run Input
  | 0 => pure input
  | bound + 1 =>
    match input.descriptor? with
    | none => pure input
    | some descriptor =>
      if input.source.rest.contains '\n' then pure input
      else do
        match ← Run.ask (.read descriptor 8192) with
        | .ok [] => pure input
        | .ok bytes =>
          Input.fill
            { input with
              source :=
                { input.source with
                  rest := input.source.rest
                    ++ (Text.Octets.ofBytes bytes).filter fun c => c != '\x00' } }
            bound
        | .error _ => pure input

/-- Read all that is left. -/
def Input.fillAll (input : Input) : Run Input := do
  match input.descriptor? with
  | none => pure input
  | some descriptor => do
    let bytes ← readAll descriptor portionLimit
    pure
      { input with
        source :=
          { input.source with
            rest := input.source.rest
              ++ (Text.Octets.ofBytes bytes).filter fun c => c != '\x00' } }

/-- The text of a sum whose parts have been expanded. -/
def sum (text : Octets) : Run Octets := do
  let session ← get
  match Arithmetic.evaluate (fun name => (session.value? name).getD []) text with
  | .ok (value, assigned) => do
    for (name, number) in assigned.reverse do
      Run.assign name (toString number).toList
    pure (toString value).toList
  | .error fault =>
    let reason := match fault with
      | .divisionByZero => "division by zero".toList
      | .malformed => "expecting primary".toList
      | .illegalNumber number => "Illegal number: ".toList ++ number
    match fault with
    | .illegalNumber _ => Run.fail reason
    | _ =>
      Run.fail
        ("arithmetic expression: ".toList ++ reason ++ ": \"".toList ++ text ++ "\"".toList)

/-- The end of a loop's round: whether another one follows, or how the loop is left early. -/
def roundEnd (result : Except Escape Unit) : Run Bool := do
  match result with
  | .ok () => pure true
  | .error (.leave (count + 2)) => throw (.leave (count + 1))
  | .error (.leave _) => do
    leave 0
    pure false
  | .error (.again (count + 2)) => throw (.again (count + 1))
  | .error (.again _) => do
    leave 0
    pure true
  | .error other => throw other

/-- A word whose first character is replaced by the name of the home directory. -/
def homeward (word : Word) : Run Word := do
  match word with
  | .plain ('~' :: rest) :: parts =>
    if (rest.isEmpty && parts.isEmpty) || rest.head? = some '/' then
      match (← get).value? "HOME".toList with
      | some home => pure (.quoted home :: .plain rest :: parts)
      | none => pure word
    else pure word
  | _ => pure word

/-- Let some time go by. -/
def pause : Run Unit := do
  let now ← Run.ask .clock
  Run.ask (.sleepUntil (now + loopPause))

mutual

/-- Expand the parts of a word. -/
def expand : Nat → Word → Run (List Glyph)
  | 0, _ => pure []
  | bound + 1, word => do
    let glyphs ← word.mapM (expandPart bound)
    pure glyphs.flatten

/-- Expand one part of a word. -/
def expandPart : Nat → Part → Run (List Glyph)
  | 0, _ => pure []
  | bound + 1, part => do
    match part with
    | .plain text => pure (text.map fun c => .symbol c false)
    | .quoted text => pure (Fields.quoted text)
    | .faulty _ => Run.fail "Bad substitution".toList
    | .arithmetic expression isQuoted => do
      let text := Fields.text (← expand bound expression)
      return Fields.expanded isQuoted (← sum text)
    | .substitution body isQuoted => do
      let (reader, writer) ← Run.ask .openPipe
      let child ← Run.splitOff (do
        enter
        discard <| Run.ask (.closeFile reader)
        Opening.move writer Run.outputDescriptor
        execute bound true (.sequence body)
        return (← get).status)
      discard <| Run.ask (.closeFile writer)
      let bytes ← readAll reader portionLimit
      discard <| Run.ask (.closeFile reader)
      let code ← awaitChild child
      modify fun session => { session with substitutionStatus? := some code, status := code }
      let text := (Text.Octets.ofBytes bytes).filter fun c => c != '\x00'
      pure (Fields.expanded isQuoted (withoutLineEnds text))
    | .parameter name modifier argument isQuoted => do
      let session ← get
      let isList := name = ['@'] || name = ['*']
      let value? : Option Octets :=
        if isList then
          (if session.arguments.isEmpty then none
            else some (Fields.join [' '] session.arguments))
        else session.parameter? name
      let plain : Run (List Glyph) := do
        if isList then
          if name = ['*'] && isQuoted then
            let separator := match session.value? "IFS".toList with
              | none => [' ']
              | some separators => separators.take 1
            pure (Fields.quoted (Fields.join separator session.arguments))
          else
            pure (Fields.separate isQuoted session.arguments)
        else
          return Fields.expanded isQuoted (← required name)
      let isAbsent (emptyToo : Bool) : Bool :=
        match value? with
        | none => true
        | some value => emptyToo && value.isEmpty
      let other : Run (List Glyph) := do
        let glyphs ← expand bound argument
        pure (if isQuoted then
            Glyph.mark :: glyphs
          else
            glyphs.map fun glyph =>
              match glyph with
              | .symbol c false => .result c
              | other => other)
      match modifier with
      | .value => plain
      | .size => do
        if isList then
          pure (Fields.expanded isQuoted (Session.digits session.arguments.length))
        else
          return Fields.expanded isQuoted (Session.digits (← required name).length)
      | .otherwise emptyToo => if isAbsent emptyToo then other else plain
      | .instead emptyToo => if isAbsent emptyToo then pure [] else other
      | .assign emptyToo =>
        if isAbsent emptyToo then do
          let text := Fields.text (← expand bound argument)
          if !Builtin.isName name then
            Run.fail (name ++ ": bad variable name".toList)
          Run.assign name text
          pure (Fields.expanded isQuoted text)
        else plain
      | .complain emptyToo =>
        if isAbsent emptyToo then do
          let text := Fields.text (← expand bound argument)
          return Fields.expanded isQuoted (← missing name emptyToo text)
        else plain
      | .withoutStart longest => do
        let value ← (if isList then pure (value?.getD []) else required name)
        let pattern := Pattern.shapes (Fields.symbols (← expand bound argument))
        pure (Fields.expanded isQuoted (Pattern.withoutStart longest pattern value))
      | .withoutEnd longest => do
        let value ← (if isList then pure (value?.getD []) else required name)
        let pattern := Pattern.shapes (Fields.symbols (← expand bound argument))
        pure (Fields.expanded isQuoted (Pattern.withoutEnd longest pattern value))

/-- Expand a word to one text. -/
def expandText : Nat → Word → Run Octets
  | 0, _ => pure []
  | bound + 1, word => do
    return Fields.text (← expand bound (← homeward word))

/-- Expand words to fields, and patterns among these to the names of files. -/
def expandFields : Nat → List Word → Run (List Octets)
  | 0, _ => pure []
  | bound + 1, words => do
    let fields ← words.mapM fun word => do
      let glyphs ← expand bound (← homeward word)
      let files ← (Fields.split (Builtin.separators (← get)) glyphs).mapM filesOf
      pure files.flatten
    pure fields.flatten

/-- Find out the targets of redirections. -/
def openings : Nat → List Redirection → Run (List Opening)
  | 0, _ => pure []
  | bound + 1, redirections =>
    redirections.mapM fun redirection => do
      match redirection with
      | .mk direction descriptor target =>
        return ⟨direction, descriptor, ← expandText bound target⟩

/-- Do something with redirections carried out before it and taken back after it. When they
cannot be carried out, a special command ends the shell, and any other fails. -/
def redirecting : Nat → Bool → List Redirection → Run Unit → Run Unit
  | 0, _, _, run => run
  | bound + 1, isSpecial, redirections, run => do
    if redirections.isEmpty then run
    else do
      let (done, kept) ← Opening.performAll true (← openings bound redirections) []
      if done then run.afterwards (Opening.restore kept)
      else do
        Opening.restore kept
        leave 2
        if isSpecial then throw (.exit 2)

/-- Carry out assignments. -/
def assignAll : Nat → List (Octets × Word) → Run Unit
  | 0, _ => pure ()
  | bound + 1, assignments =>
    assignments.forM fun (name, word) => do
      let value ← expandText bound word
      showCommand [name ++ '=' :: value]
      Run.assign name value

/-- Carry out assignments that hold for one command only. -/
def assigning : Nat → List (Octets × Word) → Run Unit → Run Unit
  | 0, _, run => run
  | bound + 1, assignments, run => do
    if assignments.isEmpty then run
    else do
      let before := (← get).bindings
      for (name, word) in assignments do
        Run.assign name (← expandText bound word)
        modify fun session => session.exportName name
      let names := assignments.map Prod.fst
      run.afterwards (modify fun session =>
        { session with
          bindings :=
            before.filter (fun entry => names.contains entry.1)
              ++ session.bindings.filter fun entry => !names.contains entry.1 })

/-- Carry out what is to be done about signals that have come meanwhile. -/
def attend : Nat → Run Unit
  | 0 => pure ()
  | bound + 1 => do
    if (← get).traps.any fun entry => entry.1 != 0 && !entry.2.isEmpty then
      match ← Run.ask .takeSignal with
      | none => pure ()
      | some signal =>
        match (← get).traps.lookup signal with
        | some action => do
          let before := (← get).status
          runText bound false { source := ⟨action, 1⟩, descriptor? := none }
          leave before
          attend bound
        | none => attend bound

/-- Carry out a command. The flag says that nothing is to follow in this process. -/
def execute : Nat → Bool → Command → Run Unit
  | 0, _, _ => pure ()
  | bound + 1, isLast, command => do
    match command with
    | .simple line assignments words redirections => do
      modify fun session => { session with line, substitutionStatus? := none }
      simple bound isLast assignments words redirections
      attend bound
      checkFailure
    | .redirected line body redirections => do
      modify fun session => { session with line }
      redirecting bound false redirections (execute bound false body)
    | .pipeline commands => do
      pipeline bound commands
      attend bound
      checkFailure
    | .negation body => do
      tested (execute bound false body)
      leave (if (← get).status = 0 then 1 else 0)
    | .both first second => do
      tested (execute bound false first)
      if (← get).status = 0 then
        execute bound isLast second
    | .either first second => do
      tested (execute bound false first)
      if (← get).status != 0 then
        execute bound isLast second
    | .sequence commands => do
      commands.dropLast.forM (execute bound false)
      match commands.getLast? with
      | some last => execute bound isLast last
      | none => pure ()
    | .background body => do
      let child ← Run.splitOff (do
        enter
        Run.ask (.setDisposition 2 .ignore)
        Run.ask (.setDisposition 3 .ignore)
        match ← Run.ask (.openFile (Text.Octets.ascii "/dev/null") .read) with
        | .ok descriptor => Opening.move descriptor 0
        | .error _ => pure ()
        execute bound true body
        return (← get).status)
      modify fun session =>
        { session with
          background? := some child, children := session.children ++ [child], status := 0 }
    | .subshell body => do
      if isLast && (← get).traps.isEmpty then do
        execute bound true body
      else do
        let child ← Run.splitOff (do
          enter
          execute bound true body
          return (← get).status)
        leave (← awaitChild child)
        attend bound
        checkFailure
    | .choice condition consequence alternative? => do
      tested (execute bound false condition)
      if (← get).status = 0 then
        execute bound isLast consequence
      else
        match alternative? with
        | some alternative => execute bound isLast alternative
        | none => leave 0
    | .repetition whileTrue condition body => do
      modify fun session => { session with loops := session.loops + 1 }
      let status ← (repeatedly bound whileTrue condition body 0).afterwards
        (modify fun session => { session with loops := session.loops - 1 })
      leave status
    | .forEach name words? body => do
      let fields ← (match words? with
        | some words => expandFields bound words
        | none => return (← get).arguments)
      leave 0
      modify fun session => { session with loops := session.loops + 1 }
      (forEach bound name body fields).afterwards
        (modify fun session => { session with loops := session.loops - 1 })
    | .selection word branches => do
      let text ← expandText bound word
      select bound isLast text branches
    | .definition name body => do
      modify fun session =>
        { session with functions := (name, body) :: session.functions }
      leave 0

/-- Carry out the rounds of a loop as long as its condition says so, with the status that the
last round leaves. -/
def repeatedly : Nat → Bool → Command → Command → Nat → Run Nat
  | 0, _, _, _, status => pure status
  | bound + 1, whileTrue, condition, body, status => do
    pause
    let tried ← (tested (execute bound false condition)).caught
    if ← roundEnd tried then
      match tried with
      | .error _ => repeatedly bound whileTrue condition body status
      | .ok _ =>
        if ((← get).status = 0) = whileTrue then do
          let result ← (execute bound false body).caught
          if ← roundEnd result then
            repeatedly bound whileTrue condition body (← get).status
          else return (← get).status
        else pure status
    else return (← get).status

/-- Carry out the rounds of a loop over some values. -/
def forEach : Nat → Octets → Command → List Octets → Run Unit
  | 0, _, _, _ => pure ()
  | _, _, _, [] => pure ()
  | bound + 1, name, body, field :: rest => do
    Run.assign name field
    let result ← (execute bound false body).caught
    if ← roundEnd result then forEach bound name body rest

/-- Carry out the first branch that has a pattern which fits. -/
def select : Nat → Bool → Octets → List (List Word × Command) → Run Unit
  | 0, _, _, _ => pure ()
  | _, _, _, [] => leave 0
  | bound + 1, isLast, text, (patterns, body) :: rest => do
    if ← fitsAny bound text patterns then do
      leave 0
      execute bound isLast body
    else select bound isLast text rest

/-- Whether a text fits one of some patterns. -/
def fitsAny : Nat → Octets → List Word → Run Bool
  | 0, _, _ => pure false
  | _, _, [] => pure false
  | bound + 1, text, pattern :: rest => do
    let symbols := Fields.symbols (← expand bound pattern)
    if Pattern.fits (Pattern.shapes symbols) text then pure true
    else fitsAny bound text rest

/-- Carry out commands that are joined by pipes. -/
def pipeline : Nat → List Command → Run Unit
  | 0, _ => pure ()
  | bound + 1, commands => do
    let children ← pipelineFrom bound none commands
    let mut status := 0
    for child in children do
      status ← awaitChild child
    leave status

/-- Start commands that are joined by pipes. The first of them reads from a descriptor, if one
is given. -/
def pipelineFrom : Nat → Option Nat → List Command → Run (List Nat)
  | 0, _, _ => pure []
  | _, _, [] => pure []
  | bound + 1, reader?, command :: rest => do
    let pipe? ← (if rest.isEmpty then pure none
      else do
        let pair ← Run.ask .openPipe
        pure (some pair))
    let child ← Run.splitOff (do
      enter
      match reader? with
      | some reader => Opening.move reader 0
      | none => pure ()
      match pipe? with
      | some (next, writer) => do
        discard <| Run.ask (.closeFile next)
        Opening.move writer Run.outputDescriptor
      | none => pure ()
      execute bound true command
      return (← get).status)
    match reader? with
    | some reader => discard <| Run.ask (.closeFile reader)
    | none => pure ()
    match pipe? with
    | some (next, writer) => do
      discard <| Run.ask (.closeFile writer)
      return child :: (← pipelineFrom bound (some next) rest)
    | none => pure [child]

/-- Carry out a simple command. -/
def simple :
    Nat → Bool → List (Octets × Word) → List Word → List Redirection → Run Unit
  | 0, _, _, _, _ => pure ()
  | bound + 1, isLast, assignments, words, redirections => do
    match ← expandFields bound words with
    | [] =>
      redirecting bound false redirections (do
        assignAll bound assignments
        leave ((← get).substitutionStatus?.getD 0))
    | name :: arguments => do
      showCommand (name :: arguments)
      let isSpecial := Builtin.special.contains name
      if name = "exec".toList then
        assignAll bound assignments
        let (done, _) ← Opening.performAll false (← openings bound redirections) []
        if !done then throw (.exit 2)
        match arguments with
        | [] => leave 0
        | program :: rest => do
          match ← program? program with
          | none => do
            modify fun session => { session with speaker? := some name }
            Run.warn (program ++ ": not found".toList)
            throw (.exit 127)
          | some path => do
            modify fun session => { session with speaker? := some name }
            let code ← become path program rest
            throw (.exit code)
      else if isSpecial then
        redirecting bound true redirections (do
          assignAll bound assignments
          builtin bound isLast name arguments)
      else
        let function? := (← get).function? name
        match function? with
        | some body =>
          redirecting bound false redirections
            (assigning bound assignments (call bound body arguments))
        | none =>
          if Builtin.names.contains name then
            redirecting bound false redirections
              (assigning bound assignments (builtin bound isLast name arguments))
          else if isLast && (← get).traps.isEmpty then do
            let (done, _) ← Opening.performAll false (← openings bound redirections) []
            if done then assigning bound assignments (launch true name arguments)
            else leave 2
          else
            redirecting bound false redirections
              (assigning bound assignments (launch false name arguments))

/-- Carry out a function. -/
def call : Nat → Command → List Octets → Run Unit
  | 0, _, _ => pure ()
  | bound + 1, body, arguments => do
    let before ← get
    modify fun session =>
      { session with arguments, isInFunction := true, loops := 0, hidden := [] }
    let result ← (execute bound false body).caught
    modify fun session =>
      { session.reveal with
        arguments := before.arguments, isInFunction := before.isInFunction,
        loops := before.loops, hidden := before.hidden }
    match result with
    | .error (.giveBack code) => leave code
    | other => Run.resume other

/-- Carry out a command of the shell itself. What goes wrong in one that is not special makes
that command fail and nothing else. -/
def builtin : Nat → Bool → Octets → List Octets → Run Unit
  | 0, _, _, _ => pure ()
  | bound + 1, isLast, name, arguments => do
    let speaker? := (← get).speaker?
    modify fun session => { session with speaker? := some name }
    let result ← (perform bound isLast name arguments).caught
    modify fun session => { session with speaker? }
    match result with
    | .error (.exit code) =>
      if Builtin.special.contains name || name = "command".toList then throw (.exit code)
      else leave code
    | other => Run.resume other

/-- Carry out a command of the shell itself, by its name. -/
def perform : Nat → Bool → Octets → List Octets → Run Unit
  | 0, _, _, _ => pure ()
  | bound + 1, isLast, name, arguments => do
    match String.ofList name with
    | "exit" => do
      let code ← (match arguments with
        | [] => return (← get).status
        | word :: _ => Builtin.number word)
      throw (.exit (code % 256))
    | "return" => do
      let code ← (match arguments with
        | [] => return (← get).status
        | word :: _ => Builtin.number word)
      throw (.giveBack (code % 256))
    | "break" => do
      let count ← (match arguments with
        | [] => pure 1
        | word :: _ => Builtin.number word)
      let loops := (← get).loops
      leave 0
      if loops != 0 then throw (.leave (min count loops))
    | "continue" => do
      let count ← (match arguments with
        | [] => pure 1
        | word :: _ => Builtin.number word)
      let loops := (← get).loops
      leave 0
      if loops != 0 then throw (.again (min count loops))
    | "eval" => do
      leave 0
      let line := (← get).line
      runText bound isLast
        { source := ⟨Fields.join [' '] arguments, line⟩, descriptor? := none }
    | "." =>
      match arguments with
      | [] => leave 0
      | file :: _ => do
        let session ← get
        let path? ← (if file.contains '/' then pure (some file)
          else firstPlain (candidates session file))
        match path? with
        | none => Run.fail (file ++ ": not found".toList)
        | some path => do
          match ← Run.ask (.openFile (Text.Octets.toBytes path) .read) with
          | .error error => Run.fail (Opening.refusal false path error)
          | .ok opened => do
            let place ← Run.ask (.duplicateFrom opened 10)
            discard <| Run.ask (.closeFile opened)
            let descriptor := match place with
              | .ok descriptor => descriptor
              | .error _ => opened
            modify fun session => { session with speaker? := some path }
            leave 0
            let result ← (runText bound false
              { source := ⟨[], 1⟩, descriptor? := some descriptor }).caught
            discard <| Run.ask (.closeFile descriptor)
            match result with
            | .error (.giveBack code) => leave code
            | other => Run.resume other
    | "command" =>
      match arguments with
      | [] => leave 0
      | ['-', 'v'] :: rest =>
        match rest with
        | [] => leave 0
        | word :: _ => do
          let session ← get
          let isKnown := Builtin.names.contains word || (session.function? word).isSome
            || Reader.reserved.contains word
          let path? ← (if isKnown then pure (some word) else program? word)
          match path? with
          | some path => do
            discard <| Run.write Run.outputDescriptor (path ++ ['\n'])
            leave 0
          | none => leave 127
      | ('-' :: letters) :: _ =>
        Run.fail ("Illegal option -".toList ++ letters.take 1)
      | word :: rest => do
        modify fun session => { session with speaker? := none }
        if Builtin.names.contains word then builtin bound isLast word rest
        else launch false word rest
    | "type" => do
      leave 0
      for word in arguments do
        let session ← get
        let text ← (do
          if Reader.reserved.contains word then pure " is a shell keyword".toList
          else if Builtin.special.contains word then
            pure " is a special shell builtin".toList
          else if (session.function? word).isSome then pure " is a shell function".toList
          else if Builtin.names.contains word then pure " is a shell builtin".toList
          else
            match ← program? word with
            | some path => pure (" is ".toList ++ path)
            | none => do
              leave 127
              pure ": not found".toList)
        discard <| Run.write Run.outputDescriptor (word ++ text ++ ['\n'])
    | _ =>
      match Builtin.simple? name arguments with
      | some run => leave (← run)
      | none => do
        Run.warn "not implemented".toList
        leave 1

/-- Carry out the commands of a text, line by line. -/
def runText : Nat → Bool → Input → Run Unit
  | 0, _, _ => pure ()
  | bound + 1, isLast, input => do
    let filled ← input.fill portionLimit
    let parsed := Reader.commandLine.run filled.source
    let isOpen := match parsed with
      | .error _ => true
      | .ok _ => false
    let (ready, result) ← (if isOpen && filled.descriptor?.isSome then do
        let whole ← filled.fillAll
        pure (whole, Reader.commandLine.run whole.source)
      else pure (filled, parsed))
    match result with
    | .error complaint => do
      modify fun session => { session with line := complaint.line }
      Run.fail complaint.text
    | .ok (none, _) => pure ()
    | .ok (some command, source) => do
      let atEnd := source.rest.isEmpty && ready.descriptor?.isNone
      execute bound (isLast && atEnd) command
      runText bound isLast { ready with source }

end

/-- A bound that no script reaches. -/
def limit : Nat := 1000000000

/-- Do what is to be done at the end of the shell, with the code to end with. -/
def conclude (result : Except Escape Unit) : Run Nat := do
  let code := match result with
    | .ok () => none
    | .error (.exit code) => some code
    | .error (.giveBack code) => some code
    | .error _ => none
  let left := (← get).status
  let final := code.getD left
  match (← get).traps.lookup 0 with
  | none => pure final
  | some action => do
    modify fun session =>
      { session with
        traps := session.traps.filter fun entry => entry.1 != 0, status := final }
    match ← (runText limit false { source := ⟨action, 1⟩, descriptor? := none }).caught with
    | .error (.exit code) => pure code
    | _ => pure final

/-- What a shell is asked to do by its arguments. -/
structure Wishes where
  takesText : Bool
  isIllegal? : Option Octets
  letters : Octets
  operands : List Octets

/-- Take the switches off the arguments of a shell. -/
def wishes (sofar : Wishes) : Nat → List Octets → Wishes
  | 0, rest => { sofar with operands := rest }
  | _, [] => sofar
  | bound + 1, word :: rest =>
    match word with
    | ['-', '-'] => { sofar with operands := rest }
    | ['-'] => { sofar with operands := rest }
    | '-' :: letters =>
      let takesText := letters.contains 'c'
      let named := letters.filter fun letter => letter != 'c' && letter != 'o'
      let next := { sofar with
        takesText := sofar.takesText || takesText, letters := sofar.letters ++ named }
      match named.find? fun letter =>
          (Builtin.turn ⟨false, false, false, false⟩ true letter).isNone with
      | some letter => { next with isIllegal? := some ("Illegal option -".toList ++ [letter]) }
      | none =>
        if letters.contains 'o' then
          match rest with
          | [] => next
          | name :: more =>
            match Builtin.letterOf? name with
            | some letter =>
              wishes { next with letters := next.letters ++ [letter] } bound more
            | none => { next with isIllegal? := some ("Illegal option -o ".toList ++ name) }
        else wishes next bound rest
    | '+' :: _ => wishes sofar bound rest
    | _ => { sofar with operands := word :: rest }

/-- The variables that a shell begins with. -/
def inherited (invocation : Invocation) : List (Octets × Variable) :=
  let given := invocation.environment.filterMap fun (name, value) =>
    let text := Text.Octets.ofBytes name
    if Builtin.isName text && text != "IFS".toList then
      some (text,
        { value := Text.Octets.ofBytes value, isExported := true, isFixed := false : Variable })
    else none
  given.reverse
    ++ [("IFS".toList, ⟨[' ', '\t', '\n'], false, false⟩),
      ("PS4".toList, ⟨"+ ".toList, false, false⟩),
      ("OPTIND".toList, ⟨['1'], false, false⟩)]

/-- A shell that has not done anything yet. -/
def begun (invocation : Invocation) : Session :=
  { name := Text.Octets.ofBytes (invocation.arguments.headD (Text.Octets.ascii "sh")),
    arguments := [], bindings := inherited invocation, functions := [], status := 0,
    processId := 0, background? := none, children := [], endings := [],
    switches := ⟨false, false, false, false⟩, traps := [], line := 0, speaker? := none,
    directory := [], isTested := false, loops := 0, isInFunction := false, hidden := [],
    substitutionStatus? := none }

/-- Find out the directory that the shell is started in. -/
def findDirectory : Run Unit := do
  let given := ((← get).value? "PWD".toList).getD []
  let isRight ← (if given.head? = some '/' then do
      let named? ← Condition.status? true given
      let actual? ← Condition.status? true ['.']
      match named?, actual? with
      | some named, some actual =>
        pure (named.identity = actual.identity && named.kind = actual.kind)
      | _, _ => pure false
    else pure false)
  if isRight then
    modify fun session => { session with directory := given }
  else do
    match ← Run.ask .workingDirectory with
    | .ok name => do
      let text := Text.Octets.ofBytes name
      modify fun session => { session.assign "PWD".toList text with directory := text }
    | .error error =>
      Run.warn ("getcwd() failed: ".toList ++ Run.describe error)

/-- Do what a shell is asked to do. -/
def carryOut (arguments : List Octets) : Run Unit := do
  findDirectory
  let id ← Run.ask .processId
  let parent ← Run.ask .parentId
  modify fun session =>
    { session.assign "PPID".toList (Session.digits parent) with processId := id }
  let asked := wishes ⟨false, none, [], []⟩ (arguments.length + 1) arguments
  match asked.isIllegal? with
  | some text => Run.fail text
  | none => pure ()
  Builtin.turnAll true asked.letters
  if asked.takesText then
    match asked.operands with
    | [] => Run.fail "-c requires an argument".toList
    | text :: rest => do
      match rest with
      | [] => pure ()
      | name :: words => modify fun session => { session with name, arguments := words }
      runText limit false { source := ⟨text, 1⟩, descriptor? := none }
  else
    match asked.operands with
    | [] => runText limit false { source := ⟨[], 1⟩, descriptor? := some 0 }
    | file :: words => do
      match ← Run.ask (.openFile (Text.Octets.toBytes file) .read) with
      | .error error => Run.fail (Opening.refusal false file error)
      | .ok opened => do
        let place ← Run.ask (.duplicateFrom opened 10)
        discard <| Run.ask (.closeFile opened)
        let descriptor := match place with
          | .ok descriptor => descriptor
          | .error _ => opened
        modify fun session => { session with name := file, arguments := words }
        runText limit false { source := ⟨[], 1⟩, descriptor? := some descriptor }

/-- The program of a shell. -/
def start (invocation : Invocation) : Program :=
  let arguments := (invocation.arguments.drop 1).map Text.Octets.ofBytes
  let whole : Run Nat := do
    let result ← (carryOut arguments).caught
    conclude result
  (whole (begun invocation)) fun (result, _) =>
    match result with
    | .ok code => .exit code
    | .error (.exit code) => .exit code
    | .error _ => .exit 0

end Interpreter

end CompilePlayground.Shell
