import CompilePlayground.Shell.Command

namespace CompilePlayground.Shell

/-!
# Reading commands

Commands are read from a text one line at a time, for what one line does may change the text
that follows. `Reader.commandLine` reads the next line that holds a command, which may go on
over several lines when something in it is left open.
-/

/-- What is still to be read, and the number of the line that it begins in. -/
structure Source where
  rest : Octets
  line : Nat
  deriving Repr, DecidableEq

/-- Why a text cannot be read as commands. -/
structure Complaint where
  line : Nat
  text : Octets
  deriving Repr, DecidableEq

/-- Reading goes on from where the last reading ended. -/
abbrev Reader := StateT Source (Except Complaint)

/-- What surrounds the part of a word that is being read. -/
inductive Surroundings where
  | none
  | quotes
  | braces (isQuoted : Bool)
  | sum (depth : Nat)
  | document
  deriving Repr, DecidableEq

/-- Whether quotes have no meaning there, since all is quoted already. -/
def Surroundings.isQuoted : Surroundings → Bool
  | .none => false
  | .quotes => true
  | .braces isQuoted => isQuoted
  | .sum _ => true
  | .document => true

namespace Reader

/-- A character that ends a word. -/
def isBreak (c : Char) : Bool :=
  [' ', '\t', '\n', ';', '&', '|', '<', '>', '(', ')'].contains c

/-- A character that has a meaning within a word. -/
def isMark (c : Char) : Bool :=
  ['\\', '\'', '"', '$', Char.ofNat 96].contains c

/-- A character that a name may begin with. -/
def isNameStart (c : Char) : Bool :=
  c.isAlpha || c = '_'

/-- A character that a name may go on with. -/
def isNamePart (c : Char) : Bool :=
  c.isAlphanum || c = '_'

/-- The parameters with names of one mark. -/
def isSpecialName (c : Char) : Bool :=
  ['@', '*', '#', '?', '-', '$', '!'].contains c

/-- The words that build commands. -/
def reserved : List Octets :=
  ["!", "case", "do", "done", "elif", "else", "esac", "fi", "for", "if", "in", "then", "until",
    "while", "\x7b", "\x7d"].map String.toList

/-- The words that end a list of commands. -/
def closers : List Octets :=
  ["do", "done", "elif", "else", "esac", "fi", "then", "\x7d"].map String.toList

/-- Give up. -/
def complain {α : Type} (text : String) : Reader α := do
  throw ⟨(← get).line, "Syntax error: ".toList ++ text.toList⟩

/-- Take some characters. -/
def skip (count : Nat) : Reader Unit :=
  modify fun source =>
    ⟨source.rest.drop count, source.line + (source.rest.take count).count '\n'⟩

/-- Take the characters as long as a condition holds of them. -/
def takeWhile (condition : Char → Bool) : Reader Octets := do
  let taken := (← get).rest.takeWhile condition
  skip taken.length
  return taken

/-- The plain word that the rest begins with. -/
def plainWord (rest : Octets) : Octets :=
  let word := rest.takeWhile fun c => !isBreak c && !isMark c
  match rest.drop word.length with
  | [] => word
  | c :: _ => if isBreak c then word else []

/-- The reserved word that the rest begins with. -/
def reserved? (rest : Octets) : Option Octets :=
  let word := plainWord rest
  if reserved.contains word then some word else none

/-- A comment without the end of its line, and the end of a line that goes on in the next. -/
def gapLength : Octets → Nat
  | ' ' :: _ => 1
  | '\t' :: _ => 1
  | '\\' :: '\n' :: _ => 2
  | '#' :: rest => 1 + (rest.takeWhile (· != '\n')).length
  | _ => 0

/-- Take what stands between words. The bound counts characters. -/
def skipGapsWithin : Nat → Reader Unit
  | 0 => pure ()
  | bound + 1 => do
    match gapLength (← get).rest with
    | 0 => pure ()
    | count => do
      skip count
      skipGapsWithin bound

/-- Take what stands between words. -/
def skipGaps : Reader Unit := do
  skipGapsWithin ((← get).rest.length + 1)

/-- Take what stands between commands. The bound counts lines. -/
def skipLinesWithin : Nat → Reader Unit
  | 0 => pure ()
  | bound + 1 => do
    skipGaps
    match (← get).rest with
    | '\n' :: _ => do
      skip 1
      skipLinesWithin bound
    | _ => pure ()

/-- Take what stands between commands. -/
def skipLines : Reader Unit := do
  skipLinesWithin ((← get).rest.length + 1)

/-- What a message calls the thing that stands next. -/
def nextName (rest : Octets) : String :=
  let quote (text : String) : String := "\"" ++ text ++ "\""
  match rest with
  | [] => "end of file"
  | '\n' :: _ => "newline"
  | ';' :: ';' :: _ => quote ";;"
  | ';' :: _ => quote ";"
  | '&' :: '&' :: _ => quote "&&"
  | '&' :: _ => quote "&"
  | '|' :: '|' :: _ => quote "||"
  | '|' :: _ => quote "|"
  | '(' :: _ => quote "("
  | ')' :: _ => quote ")"
  | '<' :: _ => "redirection"
  | '>' :: _ => "redirection"
  | _ =>
    match reserved? rest with
    | some word => quote (String.ofList word)
    | none => "word"

/-- Give up because of what stands next. -/
def unexpected {α : Type} : Reader α := do
  complain (nextName (← get).rest ++ " unexpected")

/-- Give up because something else should stand next. -/
def expected {α : Type} (wanted : String) : Reader α := do
  complain (nextName (← get).rest ++ " unexpected (expecting \"" ++ wanted ++ "\")")

/-- Take a reserved word, which has to stand next. -/
def expectWord (word : String) : Reader Unit := do
  skipLines
  if reserved? (← get).rest = some word.toList then skip word.length else expected word

/-- Take a closing bracket, which has to stand next. -/
def expectClosing : Reader Unit := do
  skipLines
  match (← get).rest with
  | ')' :: _ => skip 1
  | _ => expected ")"

/-- Whether the part of a word that is being read ends here. -/
def endsAt : Surroundings → Octets → Bool
  | _, [] => true
  | .none, c :: _ => isBreak c
  | .quotes, c :: _ => c = '"'
  | .braces _, c :: _ => c = '}'
  | .sum 0, ')' :: ')' :: _ => true
  | .sum _, _ => false
  | .document, _ => false

/-- A character that does not stand for itself there. -/
def isStop : Surroundings → Char → Bool
  | .none, c => isBreak c || isMark c
  | .quotes, c => c = '"' || c = '\\' || c = '$' || c = Char.ofNat 96
  | .braces isQuoted, c =>
    c = '}' || c = '"' || c = '\\' || c = '$' || c = Char.ofNat 96 || (c = '\'' && !isQuoted)
  | .sum _, c => c = '(' || c = ')' || c = '"' || c = '\\' || c = '$' || c = Char.ofNat 96
  | .document, c => c = '\\' || c = '$' || c = Char.ofNat 96

/-- Text as a part of a word there. -/
def textPart (surroundings : Surroundings) (text : Octets) : Part :=
  if surroundings.isQuoted then .quoted text else .plain text

/-- What stands between two back quotes, with the back quotes within it unmasked, and how many
characters it takes. There is none without a second back quote. -/
def backQuoted? (isQuoted : Bool) : Octets → Option (Octets × Nat)
  | [] => none
  | '\\' :: c :: rest =>
    (backQuoted? isQuoted rest).map fun (text, count) =>
      (if c = '\\' || c = '$' || c = Char.ofNat 96 || (c = '"' && isQuoted) then c :: text
        else '\\' :: c :: text,
        count + 2)
  | c :: rest =>
    if c = Char.ofNat 96 then some ([], 1)
    else (backQuoted? isQuoted rest).map fun (text, count) => (c :: text, count + 1)

/-- The lines up to one that holds nothing but some word, what follows that line, and how many
lines it all takes. Tabulators at the beginning of a line may be left out. -/
def document (bare : Bool) (delimiter : Octets) : Nat → Octets → Octets × Octets
  | 0, rest => ([], rest)
  | bound + 1, rest =>
    if rest.isEmpty then ([], [])
    else
      let line := rest.takeWhile (· != '\n')
      let shown := if bare then line.dropWhile (· = '\t') else line
      let after := rest.drop (line.length + 1)
      if shown = delimiter then ([], after)
      else
        let (text, left) := document bare delimiter bound after
        (shown ++ '\n' :: text, left)

/-- The text of a part that is not expanded. -/
def literalText : Part → Octets
  | .plain text => text
  | .quoted text => text
  | _ => []

/-- Whether some part is quoted. -/
def hasQuotes (word : Word) : Bool :=
  word.any fun part =>
    match part with
    | .quoted _ => true
    | _ => false

/-- How an operator is read that sets up a descriptor: how long it is, what it does, and which
descriptor it is about when none is named. -/
def direction? : Octets → Option (Nat × Direction × Nat × Bool)
  | '<' :: '<' :: '-' :: _ => some (3, .text, 0, true)
  | '<' :: '<' :: _ => some (2, .text, 0, false)
  | '<' :: '&' :: _ => some (2, .copy, 0, false)
  | '<' :: '>' :: _ => some (2, .both, 0, false)
  | '<' :: _ => some (1, .input, 0, false)
  | '>' :: '>' :: _ => some (2, .append, 1, false)
  | '>' :: '&' :: _ => some (2, .copy, 1, false)
  | '>' :: '|' :: _ => some (2, .output, 1, false)
  | '>' :: _ => some (1, .output, 1, false)
  | _ => none

/-- A digit that names the descriptor of the operator behind it. -/
def descriptor? (rest : Octets) : Option Nat :=
  match rest with
  | digit :: c :: _ =>
    if digit.isDigit && (c = '<' || c = '>') then some (digit.toNat - '0'.toNat) else none
  | _ => none

/-- The name of a variable that the rest sets, if it begins with an equals sign after it. -/
def assigned? (rest : Octets) : Option Octets :=
  let name := rest.takeWhile isNamePart
  match name, rest.drop name.length with
  | first :: _, '=' :: _ => if isNameStart first then some name else none
  | _, _ => none

/-- The modifier that stands behind the name of a parameter, and how long it is. -/
def modifier? : Octets → Option (Nat × Modifier)
  | ':' :: '-' :: _ => some (2, .otherwise true)
  | ':' :: '=' :: _ => some (2, .assign true)
  | ':' :: '?' :: _ => some (2, .complain true)
  | ':' :: '+' :: _ => some (2, .instead true)
  | '-' :: _ => some (1, .otherwise false)
  | '=' :: _ => some (1, .assign false)
  | '?' :: _ => some (1, .complain false)
  | '+' :: _ => some (1, .instead false)
  | '#' :: '#' :: _ => some (2, .withoutStart true)
  | '#' :: _ => some (1, .withoutStart false)
  | '%' :: '%' :: _ => some (2, .withoutEnd true)
  | '%' :: _ => some (1, .withoutEnd false)
  | _ => none

/-- The name of a parameter that the rest begins with. -/
def parameterName (rest : Octets) : Octets :=
  match rest with
  | [] => []
  | c :: _ =>
    if isNameStart c then rest.takeWhile isNamePart
    else if c.isDigit then rest.takeWhile Char.isDigit
    else if isSpecialName c then [c]
    else []

mutual

/-- Read the parts of a word up to where its surroundings end. -/
def parts : Nat → Surroundings → Reader Word
  | 0, _ => pure []
  | bound + 1, surroundings => do
    let source ← get
    if endsAt surroundings source.rest then
      pure []
    else
      match surroundings, source.rest with
      | .sum depth, '(' :: _ => do
        skip 1
        return .quoted ['('] :: (← parts bound (.sum (depth + 1)))
      | .sum (depth + 1), ')' :: _ => do
        skip 1
        return .quoted [')'] :: (← parts bound (.sum depth))
      | .sum 0, ')' :: _ => expected "))"
      | _, _ => do
        let first ← part bound surroundings
        return first ++ (← parts bound surroundings)

/-- Read one part of a word, or several that belong together. -/
def part : Nat → Surroundings → Reader Word
  | 0, _ => pure []
  | bound + 1, surroundings => do
    match (← get).rest with
    | [] => pure []
    | '\\' :: rest =>
      match rest with
      | '\n' :: _ => do
        skip 2
        pure []
      | c :: _ =>
        if !surroundings.isQuoted || c = '$' || c = '\\' || c = Char.ofNat 96
            || (c = '"' && surroundings != .document)
            || (c = '}' && surroundings = .braces true) then do
          skip 2
          pure [.quoted [c]]
        else do
          skip 1
          pure [.quoted ['\\']]
      | [] => do
        skip 1
        pure [.quoted ['\\']]
    | '$' :: _ => do
      skip 1
      dollar bound surroundings.isQuoted
    | c :: rest =>
      if c = Char.ofNat 96 then
        match backQuoted? surroundings.isQuoted rest with
        | none => complain "EOF in backquote substitution"
        | some (text, count) => do
          let line := (← get).line
          skip (count + 1)
          match (commands bound).run ⟨text, line⟩ with
          | .ok (body, left) =>
            if left.rest.isEmpty then
              pure [.substitution body surroundings.isQuoted]
            else
              throw ⟨left.line,
                ("Syntax error: " ++ nextName left.rest ++ " unexpected").toList⟩
          | .error complaint => throw complaint
      else if c = '\'' && isStop surroundings c then do
        skip 1
        let text ← takeWhile (· != '\'')
        match (← get).rest with
        | [] => complain "Unterminated quoted string"
        | _ => do
          skip 1
          pure [.quoted text]
      else if c = '"' && isStop surroundings c then do
        skip 1
        let inner ← parts bound .quotes
        match (← get).rest with
        | [] => complain "Unterminated quoted string"
        | _ => do
          skip 1
          pure (if inner.isEmpty then [.quoted []] else inner)
      else do
        let text ← takeWhile fun d => !isStop surroundings d
        if text.isEmpty then do
          skip 1
          pure [textPart surroundings [c]]
        else
          pure [textPart surroundings text]

/-- Read an expansion behind its dollar sign. -/
def dollar : Nat → Bool → Reader Word
  | 0, _ => pure []
  | bound + 1, isQuoted => do
    match (← get).rest with
    | '(' :: '(' :: _ => do
      skip 2
      let expression ← parts bound (.sum 0)
      match (← get).rest with
      | ')' :: ')' :: _ => do
        skip 2
        pure [.arithmetic expression isQuoted]
      | _ => expected "))"
    | '(' :: _ => do
      skip 1
      let body ← commands bound
      expectClosing
      pure [.substitution body isQuoted]
    | '{' :: _ => do
      skip 1
      braces bound isQuoted
    | rest =>
      let name := parameterName rest
      let short := match name with
        | c :: _ => if c.isDigit then [c] else name
        | [] => []
      if short.isEmpty then
        pure [if isQuoted then .quoted ['$'] else .plain ['$']]
      else do
        skip short.length
        pure [.parameter short .value [] isQuoted]

/-- Read an expansion behind its opening brace. -/
def braces : Nat → Bool → Reader Word
  | 0, _ => pure []
  | bound + 1, isQuoted => do
    let source ← get
    let isSize :=
      match source.rest with
      | '#' :: '}' :: _ => false
      | '#' :: rest => !(parameterName rest).isEmpty
      | _ => false
    if isSize then skip 1
    let rest := (← get).rest
    let name := parameterName rest
    skip name.length
    match (← get).rest with
    | [] => complain "Missing '\x7d'"
    | '}' :: _ =>
      if name.isEmpty then do
        skip 1
        pure [.faulty source.line]
      else do
        skip 1
        pure [.parameter name (if isSize then .size else .value) [] isQuoted]
    | rest =>
      match (if name.isEmpty || isSize then none else modifier? rest) with
      | none => do
        discard <| parts bound (.braces isQuoted)
        match (← get).rest with
        | [] => complain "Missing '\x7d'"
        | _ => do
          skip 1
          pure [.faulty source.line]
      | some (length, modifier) => do
        skip length
        let within := match modifier with
          | .withoutStart _ => false
          | .withoutEnd _ => false
          | _ => isQuoted
        let argument ← parts bound (.braces within)
        match (← get).rest with
        | [] => complain "Missing '\x7d'"
        | _ => do
          skip 1
          pure [.parameter name modifier argument isQuoted]

/-- Read one word. -/
def word : Nat → Reader Word
  | 0 => pure []
  | bound + 1 => parts bound .none

/-- Read the redirection that stands next, if one does. -/
def redirection? : Nat → Reader (Option Redirection)
  | 0 => pure none
  | bound + 1 => do
    skipGaps
    let source ← get
    let named := descriptor? source.rest
    match direction? (if named.isSome then source.rest.drop 1 else source.rest) with
    | none => pure none
    | some (length, direction, standard, bare) => do
      skip (if named.isSome then length + 1 else length)
      skipGaps
      let target ← word bound
      if target.isEmpty then unexpected
      else
        match direction with
        | .text => do
          let delimiter := target.flatMap literalText
          let rest := (← get).rest
          let line := rest.takeWhile (· != '\n')
          let (text, left) :=
            document bare delimiter (rest.length + 1) (rest.drop (line.length + 1))
          modify fun source => { source with rest := line ++ '\n' :: left }
          if hasQuotes target then
            return some (.mk .text (named.getD standard) [.quoted text])
          else
            match (parts bound .document).run ⟨text, source.line⟩ with
            | .ok (body, _) => return some (.mk .text (named.getD standard) body)
            | .error complaint => throw complaint
        | _ => return some (.mk direction (named.getD standard) target)

/-- Read the redirections that stand next. -/
def redirections : Nat → Reader (List Redirection)
  | 0 => pure []
  | bound + 1 => do
    match ← redirection? bound with
    | none => pure []
    | some first => return first :: (← redirections bound)

/-- Read the rest of a simple command. -/
def simpleRest :
    Nat → List (Octets × Word) → List Word → List Redirection →
      Reader (List (Octets × Word) × List Word × List Redirection)
  | 0, assignments, words, targets => pure (assignments, words, targets)
  | bound + 1, assignments, words, targets => do
    match ← redirection? bound with
    | some target => simpleRest bound assignments words (targets ++ [target])
    | none => do
      skipGaps
      let rest := (← get).rest
      match rest with
      | [] => pure (assignments, words, targets)
      | c :: _ =>
        if isBreak c then pure (assignments, words, targets)
        else
          match (if words.isEmpty then assigned? rest else none) with
          | some name => do
            skip (name.length + 1)
            let value ← word bound
            simpleRest bound (assignments ++ [(name, value)]) words targets
          | none => do
            let next ← word bound
            simpleRest bound assignments (words ++ [next]) targets

/-- Read a command that is no list of others. -/
def command : Nat → Reader Command
  | 0 => unexpected
  | bound + 1 => do
    skipGaps
    let source ← get
    let wrap (body : Command) : Reader Command := do
      match ← redirections bound with
      | [] => pure body
      | targets => pure (.redirected source.line body targets)
    match source.rest with
    | '(' :: _ => do
      skip 1
      let body ← commands bound
      if body.isEmpty then unexpected
      expectClosing
      wrap (.subshell (.sequence body))
    | _ =>
      match (reserved? source.rest).map String.ofList with
      | some "\x7b" => do
        skip 1
        let body ← someCommands bound
        expectWord "\x7d"
        wrap body
      | some "if" => do
        skip 2
        let choice ← choiceRest bound
        wrap choice
      | some "while" => do
        skip 5
        let condition ← someCommands bound
        expectWord "do"
        let body ← someCommands bound
        expectWord "done"
        wrap (.repetition true condition body)
      | some "until" => do
        skip 5
        let condition ← someCommands bound
        expectWord "do"
        let body ← someCommands bound
        expectWord "done"
        wrap (.repetition false condition body)
      | some "for" => do
        skip 3
        skipGaps
        let name ← takeWhile isNamePart
        if name.isEmpty || (name.headD '0').isDigit then complain "Bad for loop variable"
        skipLines
        let words? ← (do
          if reserved? (← get).rest = some "in".toList then do
            skip 2
            let words ← wordsRest bound
            match (← get).rest with
            | ';' :: _ => do
              skip 1
              pure (some words)
            | '\n' :: _ => do
              skip 1
              pure (some words)
            | _ => unexpected
          else do
            match (← get).rest with
            | ';' :: _ => do
              skip 1
              pure none
            | _ => pure none)
        expectWord "do"
        let body ← someCommands bound
        expectWord "done"
        wrap (.forEach name words? body)
      | some "case" => do
        skip 4
        skipGaps
        let subject ← word bound
        if subject.isEmpty then unexpected
        expectWord "in"
        let branches ← branchesRest bound
        wrap (.selection subject branches)
      | some "in" => simple bound
      | some _ => unexpected
      | none => simple bound

/-- Read a simple command, or the definition of a function. -/
def simple : Nat → Reader Command
  | 0 => unexpected
  | bound + 1 => do
    let line := (← get).line
    let (assignments, words, targets) ← simpleRest bound [] [] []
    match assignments, words, targets, (← get).rest with
    | [], [[.plain name]], [], '(' :: _ => do
      skip 1
      skipGaps
      match (← get).rest with
      | ')' :: _ => do
        skip 1
        if !name.all isNamePart || (name.headD '0').isDigit then complain "Bad function name"
        skipLines
        let body ← command bound
        pure (.definition name body)
      | _ => expected ")"
    | [], [], [], _ => unexpected
    | _, _, _, _ => pure (.simple line assignments words targets)

/-- Read words up to the end of the list that they make. -/
def wordsRest : Nat → Reader (List Word)
  | 0 => pure []
  | bound + 1 => do
    skipGaps
    match (← get).rest with
    | [] => pure []
    | c :: _ =>
      if isBreak c then pure []
      else do
        let first ← word bound
        return first :: (← wordsRest bound)

/-- Read a choice behind its first word. -/
def choiceRest : Nat → Reader Command
  | 0 => unexpected
  | bound + 1 => do
    let condition ← someCommands bound
    expectWord "then"
    let consequence ← someCommands bound
    skipLines
    match (reserved? (← get).rest).map String.ofList with
    | some "elif" => do
      skip 4
      let alternative ← choiceRest bound
      pure (.choice condition consequence (some alternative))
    | some "else" => do
      skip 4
      let alternative ← someCommands bound
      expectWord "fi"
      pure (.choice condition consequence (some alternative))
    | _ => do
      expectWord "fi"
      pure (.choice condition consequence none)

/-- Read the patterns of a branch up to the closing bracket behind them. -/
def patternsRest : Nat → Reader (List Word)
  | 0 => pure []
  | bound + 1 => do
    skipGaps
    let first ← word bound
    if first.isEmpty then unexpected
    skipGaps
    match (← get).rest with
    | '|' :: _ => do
      skip 1
      return first :: (← patternsRest bound)
    | ')' :: _ => do
      skip 1
      pure [first]
    | _ => expected ")"

/-- Read the branches of a selection. -/
def branchesRest : Nat → Reader (List (List Word × Command))
  | 0 => pure []
  | bound + 1 => do
    skipLines
    if reserved? (← get).rest = some "esac".toList then do
      skip 4
      pure []
    else do
      match (← get).rest with
      | '(' :: _ => skip 1
      | _ => pure ()
      let patterns ← patternsRest bound
      let body ← commands bound
      skipLines
      match (← get).rest with
      | ';' :: ';' :: _ => do
        skip 2
        return (patterns, .sequence body) :: (← branchesRest bound)
      | _ => do
        expectWord "esac"
        pure [(patterns, .sequence body)]

/-- Read commands that are joined by pipes. -/
def pipeRest : Nat → Reader (List Command)
  | 0 => pure []
  | bound + 1 => do
    let first ← command bound
    skipGaps
    match (← get).rest with
    | '|' :: '|' :: _ => pure [first]
    | '|' :: _ => do
      skip 1
      skipLines
      return first :: (← pipeRest bound)
    | _ => pure [first]

/-- Read a pipeline, which may be negated. -/
def pipeline : Nat → Reader Command
  | 0 => unexpected
  | bound + 1 => do
    skipGaps
    if reserved? (← get).rest = some ['!'] then do
      skip 1
      let body ← pipeline bound
      pure (.negation body)
    else do
      match ← pipeRest bound with
      | [single] => pure single
      | several => pure (.pipeline several)

/-- Read what is joined to a command by the operators for success and failure. -/
def joined : Nat → Command → Reader Command
  | 0, first => pure first
  | bound + 1, first => do
    skipGaps
    match (← get).rest with
    | '&' :: '&' :: _ => do
      skip 2
      skipLines
      let second ← pipeline bound
      joined bound (.both first second)
    | '|' :: '|' :: _ => do
      skip 2
      skipLines
      let second ← pipeline bound
      joined bound (.either first second)
    | _ => pure first

/-- Read a list of commands up to what ends it. -/
def commands : Nat → Reader (List Command)
  | 0 => pure []
  | bound + 1 => do
    skipLines
    let rest := (← get).rest
    let isEnd :=
      match rest with
      | [] => true
      | ')' :: _ => true
      | ';' :: ';' :: _ => true
      | _ =>
        match reserved? rest with
        | some found => closers.contains found
        | none => false
    if isEnd then pure []
    else do
      let first ← pipeline bound
      let whole ← joined bound first
      skipGaps
      match (← get).rest with
      | ';' :: ';' :: _ => pure [whole]
      | ';' :: _ => do
        skip 1
        return whole :: (← commands bound)
      | '&' :: _ => do
        skip 1
        return .background whole :: (← commands bound)
      | '\n' :: _ => do
        skip 1
        return whole :: (← commands bound)
      | _ => pure [whole]

/-- Read a list of commands that is not empty. -/
def someCommands : Nat → Reader Command
  | 0 => unexpected
  | bound + 1 => do
    match ← commands bound with
    | [] => unexpected
    | body => pure (.sequence body)

end

/-- A bound that no text of a size reaches. -/
def boundOf (text : Octets) : Nat :=
  16 * text.length + 64

/-- Read what stands on one line after a command of it. -/
def lineRest : Nat → Reader (List Command)
  | 0 => pure []
  | bound + 1 => do
    skipGaps
    match (← get).rest with
    | [] => pure []
    | '\n' :: _ => do
      skip 1
      pure []
    | _ => do
      let size := boundOf (← get).rest
      let first ← pipeline size
      let whole ← joined size first
      skipGaps
      match (← get).rest with
      | ';' :: ';' :: _ => unexpected
      | ';' :: _ => do
        skip 1
        return whole :: (← lineRest bound)
      | '&' :: _ => do
        skip 1
        return .background whole :: (← lineRest bound)
      | '\n' :: _ => do
        skip 1
        pure [whole]
      | [] => pure [whole]
      | _ => unexpected

/-- Read the commands of the next line that has any. There are none at the end of the text. -/
def commandLine : Reader (Option Command) := do
  skipLines
  match (← get).rest with
  | [] => pure none
  | rest => do
    let body ← lineRest (rest.length + 1)
    pure (some (.sequence body))

end Reader

end CompilePlayground.Shell
