import CompilePlayground.Posix.Path
import CompilePlayground.Posix.Program
import CompilePlayground.Text.Octets

namespace CompilePlayground.Utility

open Posix

/-!
# Arguments of utilities

Utilities take options of one letter, which may be joined, options with long names, and
operands between them. After two hyphens all is an operand.
-/

/-- An option with its argument, by its letter. -/
structure Setting where
  letter : Char
  argument? : Option Octets
  deriving Repr, DecidableEq

/-- What a utility takes: its name, its letters without and with an argument, and the long
names of letters. -/
structure Manual where
  name : String
  plain : List Char
  withArgument : List Char
  long : List (String × Char)
  failure : Nat

/-- What a utility is told. -/
structure Arguments where
  settings : List Setting
  operands : List Octets
  deriving Repr, DecidableEq

namespace Arguments

/-- Whether a letter is among the options. -/
def has (arguments : Arguments) (letter : Char) : Bool :=
  arguments.settings.any fun setting => setting.letter = letter

/-- One more option. -/
def set (arguments : Arguments) (letter : Char) (argument? : Option Octets) : Arguments :=
  { arguments with settings := ⟨letter, argument?⟩ :: arguments.settings }

/-- Letters that are joined to one word, of which the last may take what follows. -/
def letters
    (manual : Manual)
    (following : List Octets) :
    Octets → Arguments → Except Octets (Arguments × List Octets)
  | [], sofar => .ok (sofar, following)
  | letter :: rest, sofar =>
    if manual.plain.contains letter then letters manual following rest (sofar.set letter none)
    else if manual.withArgument.contains letter then
      if !rest.isEmpty then .ok (sofar.set letter (some rest), following)
      else
        match following with
        | argument :: more => .ok (sofar.set letter (some argument), more)
        | [] =>
          .error ("option requires an argument -- '".toList ++ [letter] ++ ['\''])
    else .error ("invalid option -- '".toList ++ [letter] ++ ['\''])

/-- Read all arguments. The bound counts them. -/
def readWithin (manual : Manual) : Nat → List Octets → Arguments → Except Octets Arguments
  | 0, _, sofar => .ok sofar
  | _, [], sofar => .ok sofar
  | bound + 1, word :: rest, sofar =>
    match word with
    | ['-', '-'] => .ok { sofar with operands := rest.reverse ++ sofar.operands }
    | '-' :: '-' :: name =>
      let bare := name.takeWhile (· != '=')
      match manual.long.lookup (String.ofList bare) with
      | some letter =>
        readWithin manual bound rest
          (sofar.set letter
            (if bare.length = name.length then none else some (name.drop (bare.length + 1))))
      | none => .error ("unrecognized option '".toList ++ word ++ ['\''])
    | '-' :: c :: more =>
      match letters manual rest (c :: more) sofar with
      | .ok (next, left) => readWithin manual bound left next
      | .error text => .error text
    | _ => readWithin manual bound rest { sofar with operands := word :: sofar.operands }

/-- Read all arguments. -/
def read (manual : Manual) (words : List Octets) : Except Octets Arguments :=
  match readWithin manual (words.length + 1) words ⟨[], []⟩ with
  | .ok found => .ok ⟨found.settings.reverse, found.operands.reverse⟩
  | .error text => .error text

end Arguments

/-- Write to a descriptor as long as somebody reads it. -/
def write (descriptor : Nat) (bytes : Bytes) : Procedure Unit := do
  if !bytes.isEmpty then
    discard <| Procedure.call (.write descriptor bytes)

/-- Write to the output. -/
def put (text : Octets) : Procedure Unit :=
  write 1 (Text.Octets.toBytes text)

/-- Say what has gone wrong. -/
def complain (name : String) (text : Octets) : Procedure Unit :=
  write 2 (Text.Octets.toBytes (name.toList ++ ": ".toList ++ text ++ ['\n']))

/-- Say what is wrong with the arguments, and where help is to be found. -/
def misuse (name : String) (text : Octets) : Procedure Unit := do
  complain name text
  write 2
    (Text.Octets.ascii ("Try '" ++ name ++ " --help' for more information.\n"))

/-- A name between quotes. -/
def quoted (name : Octets) : Octets :=
  if name.contains '\'' then '"' :: name ++ ['"'] else '\'' :: name ++ ['\'']

/-- A name, between quotes when it would not stand for itself otherwise. -/
def shown (name : Octets) : Octets :=
  let isPlain (c : Char) : Bool :=
    c.isAlphanum || ['_', '-', '.', '/', ':', '=', '+', ',', '%', '@', '#', '~', '^'].contains c
  if !name.isEmpty && name.all isPlain then name else quoted name

/-- The text of an error of the system. -/
def describe (error : SystemError) : Octets :=
  error.description.toList

/-- A text as a name for the system. -/
def nameOf (text : Octets) : Bytes :=
  Text.Octets.toBytes text

/-- Do something for each of some values, with whether all of it succeeded. -/
def allOf {α : Type} (act : α → Procedure Bool) : List α → Procedure Bool
  | [] => pure true
  | value :: rest => do
    let here ← act value
    let there ← allOf act rest
    pure (here && there)

/-- The code of a utility that has done everything, or not. -/
def codeOf (succeeded : Bool) : Nat :=
  if succeeded then 0 else 1

/-- A utility as a program. Bad arguments end it at once. -/
def program (manual : Manual) (task : Arguments → Procedure Nat) (invocation : Invocation) :
    Program :=
  let words := (invocation.arguments.drop 1).map Text.Octets.ofBytes
  Procedure.program do
    match Arguments.read manual words with
    | .ok arguments => task arguments
    | .error text => do
      misuse manual.name text
      pure manual.failure

/-- Read all that a descriptor still has to give, portion by portion. The bound counts these. -/
def readAll (descriptor : Nat) : Nat → Procedure (Reply Bytes)
  | 0 => pure (.ok [])
  | bound + 1 => do
    match ← Procedure.call (.read descriptor 1048576) with
    | .ok [] => pure (.ok [])
    | .ok bytes => do
      match ← readAll descriptor bound with
      | .ok rest => pure (.ok (bytes ++ rest))
      | .error error => pure (.error error)
    | .error error => pure (.error error)

/-- How many portions may be read. -/
def portionLimit : Nat := 1000000

end CompilePlayground.Utility
