import CompilePlayground.Posix.Disk

namespace CompilePlayground.Posix.Launch

/-!
# Finding programs

A file is run as what it holds: a program of the machine, or a script whose first line names
the program that reads it. A name without a slash is looked for in the directories of a search
path; any other name is followed from the directory of the process that is to run it.
-/

/-- How many scripts may read one another. -/
def scriptLimit : Nat := 5

/-- How much of a script is looked at for its first line. -/
def headLimit : Nat := 256

/-- The code of a line feed. -/
def lineFeed : UInt8 := 10

/-- A space or a tabulator. -/
def isGap (byte : UInt8) : Bool :=
  byte = 32 || byte = 9

/-- What the first line of a script asks for: the name of the program that reads it, and one
argument. -/
structure Interpreter where
  name : Bytes
  argument? : Option Bytes
  deriving Repr, DecidableEq

/-- What the first line of a script asks for. A line that names nothing is none. -/
def interpreter? (bytes : Bytes) : Option Interpreter :=
  match bytes with
  | 35 :: 33 :: rest =>
    let head := rest.take (headLimit - 2)
    let line := (head.takeWhile fun byte => byte != lineFeed && byte != 0).dropWhile isGap
    let isEnded := head.contains lineFeed || head.length < headLimit - 2
    let name := line.takeWhile fun byte => !isGap byte
    let argument := (((line.drop name.length).dropWhile isGap).reverse.dropWhile isGap).reverse
    if name.isEmpty && head.contains lineFeed then none
    else if !isEnded && name.length = line.length then none
    else some ⟨name, if argument.isEmpty then none else some argument⟩
  | _ => none

/-- The file that a name leads to, if it may be run. -/
def executable (disk : Disk) (start? : Option Path) (name : Bytes) : Reply (Nat × File) :=
  match disk.find start? true name with
  | .ok (_, .file id) =>
    match disk.file? id with
    | some file => if file.isExecutable then .ok (id, file) else .error .denied
    | none => .error .notFound
  | .ok _ => .error .denied
  | .error error => .error error

/-- The program that a file which a name leads to is run as. An empty name of a reader leads to
the directory itself, which cannot be run. -/
def programWithin (disk : Disk) (start? : Option Path) :
    Nat → Bytes → Invocation → Reply Program
  | 0, _, _ => .error .linkLoop
  | depth + 1, name, invocation =>
    match executable disk start? name with
    | .error error => .error error
    | .ok (_, file) =>
      match file.content with
      | .program start => .ok (start invocation)
      | .void => .error .denied
      | .bytes bytes =>
        match interpreter? bytes with
        | none => .error .notExecutable
        | some reader =>
          if reader.name.isEmpty then .error .denied
          else
            programWithin disk start? depth reader.name
              { invocation with
                arguments :=
                  reader.name :: (reader.argument?.toList ++ name :: invocation.arguments.drop 1) }

/-- The program that a file which a name leads to is run as. -/
def program (disk : Disk) (start? : Option Path) (name : Bytes) (invocation : Invocation) :
    Reply Program :=
  programWithin disk start? scriptLimit name invocation

/-- The code of the character that parts the directories of a search path. -/
def colon : UInt8 := 58

/-- The directories of a search path. An empty one is the directory of the process. -/
def directories : Bytes → List Bytes
  | [] => [[]]
  | byte :: rest =>
    if byte = colon then
      [] :: directories rest
    else
      match directories rest with
      | [] => [[byte]]
      | part :: more => (byte :: part) :: more

/-- The names that a program's name may stand for, in the order in which they are tried. -/
def candidates (searchPath name : Bytes) : List Bytes :=
  if name.contains slash then [name]
  else (directories searchPath).map fun directory => Path.join directory name

/-- Whether the search goes on after an error. -/
def isSkipped (error : SystemError) : Bool :=
  error = .notFound || error = .notDirectory || error = .denied

/-- Try one name after the other. The first that gives something, or fails for another reason
than that nothing can be run there, decides. Otherwise it is remembered that something was
there that could not be run. -/
def attempt {α : Type} (start : Bytes → Reply α) (error : SystemError) : List Bytes → Reply α
  | [] => .error error
  | name :: rest =>
    match start name with
    | .ok value => .ok value
    | .error found =>
      if isSkipped found then
        attempt start (if found = .denied then .denied else error) rest
      else
        .error found

/-- Find what a program's name stands for. A name with a slash stands for itself. -/
def search {α : Type} (searchPath name : Bytes) (start : Bytes → Reply α) : Reply α :=
  if name.isEmpty then .error .notFound
  else if name.contains slash then start name
  else if Path.stepLimit < name.length then .error .nameTooLong
  else attempt start .notFound (candidates searchPath name)

/-- The program that is run under a program's name. -/
def find
    (disk : Disk)
    (start? : Option Path)
    (searchPath name : Bytes)
    (invocation : Invocation) :
    Reply Program :=
  search searchPath name fun candidate => program disk start? candidate invocation

end CompilePlayground.Posix.Launch
