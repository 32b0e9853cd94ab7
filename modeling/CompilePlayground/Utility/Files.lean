import CompilePlayground.Utility.Arguments

namespace CompilePlayground.Utility

open Posix

/-!
# Utilities for files

These utilities show, list, make, move, link and remove files and directories.
-/

namespace Cat

/-- What the utility takes. -/
def manual : Manual :=
  { name := "cat", plain := ['n', 'u'], withArgument := [],
    long := [("number", 'n')], failure := 1 }

/-- A number before a line. -/
def numbered (number : Nat) : Bytes :=
  let digits := (toString number).toList
  nameOf (List.replicate (6 - digits.length) ' ' ++ digits ++ ['\t'])

/-- Bytes with a number before each line that begins in them, in reverse. The number is that of
the last line that has begun; the flag says that the next byte begins one. -/
def number : Nat × Bool → Bytes → Bytes → (Nat × Bool) × Bytes
  | state, [], done => (state, done)
  | (count, begins), byte :: rest, done =>
    let before := if begins then (numbered (count + 1)).reverse ++ done else done
    number ((if begins then count + 1 else count), byte == 10) rest (byte :: before)

/-- How far the numbering of lines has come, if lines are numbered. -/
abbrev Numbering := Option (Nat × Bool)

/-- Copy what a descriptor has to give to the output. The bound counts portions. -/
def copy (descriptor : Nat) : Nat → Numbering → Procedure (Reply Numbering)
  | 0, numbering => pure (.ok numbering)
  | bound + 1, numbering => do
    match ← Procedure.call (.read descriptor 131072) with
    | .ok [] => pure (.ok numbering)
    | .ok bytes => do
      let (next, text) := match numbering with
        | none => (none, bytes)
        | some state =>
          let (after, done) := number state bytes []
          (some after, done.reverse)
      match ← Procedure.call (.write 1 text) with
      | .ok _ => copy descriptor bound next
      | .error _ => pure (.ok next)
    | .error error => pure (.error error)

/-- Whether a descriptor stands for the file that is written to, which is not empty. -/
def isOutput (descriptor : Nat) : Procedure Bool := do
  let input ← Procedure.call (.openStatus descriptor)
  let output ← Procedure.call (.openStatus 1)
  match input, output with
  | .ok source, .ok target =>
    pure (source.kind = .plain && target.kind = .plain && source.identity = target.identity
      && source.size != 0)
  | _, _ => pure false

/-- Copy from a descriptor, and say under which name that failed if it does. -/
def copyNamed (name : Octets) (descriptor : Nat) (numbering : Numbering) :
    Procedure (Numbering × Bool) := do
  match ← copy descriptor portionLimit numbering with
  | .ok next => pure (next, true)
  | .error error => do
    complain "cat" (name ++ ": ".toList ++ describe error)
    pure (numbering, false)

/-- Copy a file to the output. -/
def one (name : Octets) (numbering : Numbering) : Procedure (Numbering × Bool) := do
  if name = ['-'] then copyNamed name 0 numbering
  else
    match ← Procedure.call (.openFile (nameOf name) .read) with
    | .error error => do
      complain "cat" (shown name ++ ": ".toList ++ describe error)
      pure (numbering, false)
    | .ok descriptor => do
      let result ← (do
        if ← isOutput descriptor then
          complain "cat" (shown name ++ ": input file is output file".toList)
          pure (numbering, false)
        else copyNamed (shown name) descriptor numbering)
      discard <| Procedure.call (.closeFile descriptor)
      pure result

/-- Copy files to the output one after the other. -/
def each : List Octets → Numbering → Procedure Bool
  | [], _ => pure true
  | name :: rest, numbering => do
    let (next, here) ← one name numbering
    let there ← each rest next
    pure (here && there)

/-- Copy files, or the input, to the output. -/
def run (arguments : Arguments) : Procedure Nat := do
  let names := if arguments.operands.isEmpty then [['-']] else arguments.operands
  return codeOf (← each names (if arguments.has 'n' then some (0, true) else none))

end Cat

namespace Ls

/-- What the utility takes. -/
def manual : Manual :=
  { name := "ls", plain := ['a', 'A', '1', 'd', 'r', 'F', 'p', 'U', 'C'], withArgument := [],
    long := [("all", 'a'), ("almost-all", 'A'), ("directory", 'd'), ("reverse", 'r')],
    failure := 2 }

/-- The mark behind the name of a file that says what it is. -/
def mark (arguments : Arguments) (status : FileStatus) : Octets :=
  if arguments.has 'F' || arguments.has 'p' then
    match status.kind with
    | .directory => ['/']
    | .link => if arguments.has 'F' then ['@'] else []
    | .plain => if arguments.has 'F' && status.mode &&& 0o111 != 0 then ['*'] else []
    | _ => []
  else []

/-- Names in the order in which they are shown. -/
def ordered (arguments : Arguments) (names : List Octets) : List Octets :=
  let sorted := names.mergeSort fun a b => nameOf a ≤ nameOf b
  if arguments.has 'r' then sorted.reverse else sorted

/-- Show names, one on each line. -/
def display (arguments : Arguments) (directory : Octets) (names : List Octets) :
    Procedure Unit := do
  let lines ← names.mapM fun name => do
    let place := if directory.isEmpty then name else directory ++ '/' :: name
    match ← Procedure.call (.status (nameOf place) false) with
    | .ok status => pure (name ++ mark arguments status ++ ['\n'])
    | .error _ => pure (name ++ ['\n'])
  put lines.flatten

/-- Show what is in a directory. -/
def directory (arguments : Arguments) (name : Octets) : Procedure Bool := do
  match ← Procedure.call (.list (nameOf name)) with
  | .error error => do
    complain "ls" ("cannot open directory ".toList ++ quoted name ++ ": ".toList ++ describe error)
    pure false
  | .ok found => do
    let names := found.map Text.Octets.ofBytes
    let visible :=
      if arguments.has 'a' then ['.'] :: ['.', '.'] :: names
      else if arguments.has 'A' then names
      else names.filter fun entry => entry.head? != some '.'
    display arguments name (ordered arguments visible)
    pure true

/-- Show directories, each under its name. -/
def sections (arguments : Arguments) : Bool → List Octets → Procedure Bool
  | _, [] => pure true
  | isFirst, name :: rest => do
    put ((if isFirst then [] else ['\n']) ++ shown name ++ ":\n".toList)
    let here ← directory arguments name
    let there ← sections arguments false rest
    pure (here && there)

/-- Part names into those of directories and others, without those that do not exist. -/
def classify (arguments : Arguments) :
    List Octets → Procedure (Bool × List Octets × List Octets)
  | [] => pure (true, [], [])
  | name :: rest => do
    let status ← Procedure.call (.status (nameOf name) true)
    let bare ← Procedure.call (.status (nameOf name) false)
    let (fine, files, directories) ← (do
      match status, bare with
      | .ok found, _ =>
        if found.kind = .directory && !arguments.has 'd' then pure (true, [], [name])
        else pure (true, [name], [])
      | .error _, .ok _ => pure (true, [name], [])
      | .error error, .error _ => do
        complain "ls" ("cannot access ".toList ++ quoted name ++ ": ".toList ++ describe error)
        pure (false, [], []))
    let (fineLater, moreFiles, moreDirectories) ← classify arguments rest
    pure (fine && fineLater, files ++ moreFiles, directories ++ moreDirectories)

/-- Show the names of files, and what is in directories. -/
def run (arguments : Arguments) : Procedure Nat := do
  let names := if arguments.operands.isEmpty then [['.']] else arguments.operands
  let (fine, files, directories) ← classify arguments names
  display arguments [] (ordered arguments files)
  let listed ← (match directories with
    | [] => pure true
    | [single] =>
      if names.length = 1 then directory arguments single
      else sections arguments files.isEmpty [single]
    | several => sections arguments files.isEmpty (ordered arguments several))
  pure (if fine && listed then 0 else 2)

end Ls

namespace Rm

/-- What the utility takes. -/
def manual : Manual :=
  { name := "rm", plain := ['f', 'r', 'R', 'd', 'v', 'i'], withArgument := [],
    long := [("force", 'f'), ("recursive", 'r'), ("dir", 'd'), ("verbose", 'v')],
    failure := 1 }

/-- Say that something could not be removed. -/
def refuse (name : Octets) (error : SystemError) : Procedure Bool := do
  complain "rm" ("cannot remove ".toList ++ quoted name ++ ": ".toList ++ describe error)
  pure false

/-- Say that something has been removed, when that is asked for. -/
def mention (arguments : Arguments) (isDirectory : Bool) (name : Octets) : Procedure Unit :=
  if arguments.has 'v' then
    put ((if isDirectory then "removed directory " else "removed ").toList ++ quoted name ++ ['\n'])
  else pure ()

/-- Remove something with all that is in it. The bound counts how deep that is. -/
def tree (arguments : Arguments) : Nat → Octets → Procedure Bool
  | 0, name => refuse name .nameTooLong
  | depth + 1, name => do
    match ← Procedure.call (.status (nameOf name) false) with
    | .error error =>
      if arguments.has 'f' && (error = .notFound || error = .notDirectory) then pure true
      else refuse name error
    | .ok status =>
      if status.kind = .directory then
        if arguments.has 'r' || arguments.has 'R' then do
          let listed ← Procedure.call (.list (nameOf name))
          let fine ← (match listed with
            | .error error => refuse name error
            | .ok names =>
              allOf
                (fun entry => tree arguments depth (name ++ '/' :: Text.Octets.ofBytes entry))
                names)
          if fine then
            match ← Procedure.call (.removeDirectory (nameOf name)) with
            | .ok _ => do
              mention arguments true name
              pure true
            | .error error => refuse name error
          else pure false
        else if arguments.has 'd' then
          match ← Procedure.call (.removeDirectory (nameOf name)) with
          | .ok _ => do
            mention arguments true name
            pure true
          | .error error => refuse name error
        else refuse name .isDirectory
      else
        match ← Procedure.call (.removeFile (nameOf name)) with
        | .ok _ => do
          mention arguments false name
          pure true
        | .error error => refuse name error

/-- How deep a tree may be that is removed. -/
def depthLimit : Nat := 4096

/-- Remove something that an operand names. -/
def one (arguments : Arguments) (name : Octets) : Procedure Bool := do
  let bare := Text.Octets.ofBytes (Path.lastStep (Path.trimmed (nameOf name)))
  let recursive := arguments.has 'r' || arguments.has 'R'
  if recursive && (bare = ['.'] || bare = ['.', '.']) then
    complain "rm"
      ("refusing to remove '.' or '..' directory: skipping ".toList ++ quoted name)
    pure false
  else if recursive && name = ['/'] then
    complain "rm" "it is dangerous to operate recursively on '/'".toList
    complain "rm" "use --no-preserve-root to override this failsafe".toList
    pure false
  else
    tree arguments depthLimit
      (if recursive then Text.Octets.ofBytes (Path.trimmed (nameOf name)) else name)

/-- Remove files and directories. -/
def run (arguments : Arguments) : Procedure Nat := do
  if arguments.operands.isEmpty then
    if arguments.has 'f' then pure 0
    else
      misuse "rm" "missing operand".toList
      pure 1
  else
    return codeOf (← allOf (one arguments) arguments.operands)

end Rm

/-- Whether a name leads to a directory. -/
def isDirectory (name : Octets) : Procedure Bool := do
  match ← Procedure.call (.status (nameOf name) true) with
  | .ok status => pure (status.kind = .directory)
  | .error _ => pure false

/-- The name that something gets within a directory. -/
def within (directory name : Octets) : Octets :=
  Text.Octets.ofBytes
    (Path.join (nameOf directory) (Path.lastStep (Path.trimmed (nameOf name))))

/-- Do something for each of some sources, whose targets stand in a directory or are named by
the last operand. -/
def toTarget
    (name : String)
    (act : Octets → Octets → Procedure Bool)
    (operands : List Octets) :
    Procedure Nat := do
  match operands with
  | [] => do
    misuse name "missing file operand".toList
    pure 1
  | [single] => do
    misuse name ("missing destination file operand after ".toList ++ quoted single)
    pure 1
  | [source, target] => do
    if ← isDirectory target then return codeOf (← act source (within target source))
    else return codeOf (← act source target)
  | several => do
    let target := several.getLast?.getD []
    if ← isDirectory target then
      return codeOf (← allOf (fun source => act source (within target source)) several.dropLast)
    else do
      match ← Procedure.call (.status (nameOf target) true) with
      | .ok _ => complain name ("target ".toList ++ quoted target ++ ": Not a directory".toList)
      | .error error =>
        complain name ("target ".toList ++ quoted target ++ ": ".toList ++ describe error)
      pure 1

namespace Mv

/-- What the utility takes. -/
def manual : Manual :=
  { name := "mv", plain := ['f', 'i', 'n', 'v', 'T'], withArgument := [],
    long := [("force", 'f'), ("verbose", 'v')], failure := 1 }

/-- Give something another name. -/
def one (source target : Octets) : Procedure Bool := do
  match ← Procedure.call (.status (nameOf source) false) with
  | .error error => do
    complain "mv" ("cannot stat ".toList ++ quoted source ++ ": ".toList ++ describe error)
    pure false
  | .ok status => do
    let already ← Procedure.call (.status (nameOf target) false)
    let isSame := match already with
      | .ok other => other.kind = status.kind && other.identity = status.identity
      | .error _ => false
    if isSame then
      complain "mv"
        (quoted source ++ " and ".toList ++ quoted target ++ " are the same file".toList)
      pure false
    else
      match ← Procedure.call (.rename (nameOf source) (nameOf target)) with
      | .ok _ => pure true
      | .error error => do
        let text :=
          if error = .invalid then
            "cannot move ".toList ++ quoted source ++ " to a subdirectory of itself, ".toList
              ++ quoted target
          else
            "cannot move ".toList ++ quoted source ++ " to ".toList ++ quoted target
              ++ ": ".toList ++ describe error
        complain "mv" text
        pure false

/-- Give other names to files and directories. -/
def run (arguments : Arguments) : Procedure Nat :=
  toTarget "mv" one arguments.operands

end Mv

namespace Ln

/-- What the utility takes. -/
def manual : Manual :=
  { name := "ln", plain := ['s', 'f', 'n', 'v', 'T'], withArgument := [],
    long := [("symbolic", 's'), ("force", 'f')], failure := 1 }

/-- Give a file one more name, or make a symbolic link to a name. -/
def one (arguments : Arguments) (source target : Octets) : Procedure Bool := do
  if arguments.has 'f' then
    discard <| Procedure.call (.removeFile (nameOf target))
  let request ← (do
    if arguments.has 's' then
      Procedure.call (.symbolicLink (nameOf source) (nameOf target))
    else
      Procedure.call (.link (nameOf source) (nameOf target)))
  match request with
  | .ok _ => pure true
  | .error error => do
    let text :=
      if arguments.has 's' then
        "failed to create symbolic link ".toList ++ quoted target ++ ": ".toList ++ describe error
      else if error = .alreadyExists then
        "failed to create hard link ".toList ++ quoted target ++ ": ".toList ++ describe error
      else
        "failed to access ".toList ++ quoted source ++ ": ".toList ++ describe error
    complain "ln" text
    pure false

/-- Make links. A single operand gets a link of its own name. -/
def run (arguments : Arguments) : Procedure Nat := do
  match arguments.operands with
  | [] => do
    misuse "ln" "missing file operand".toList
    pure 1
  | [single] => return codeOf (← one arguments single (within ['.'] single))
  | several => toTarget "ln" (one arguments) several

end Ln

namespace Mkdir

/-- What the utility takes. -/
def manual : Manual :=
  { name := "mkdir", plain := ['p', 'v'], withArgument := ['m'],
    long := [("parents", 'p'), ("verbose", 'v')], failure := 1 }

/-- Say that a directory could not be made. -/
def refuse (name : Octets) (error : SystemError) : Procedure Bool := do
  complain "mkdir"
    ("cannot create directory ".toList ++ quoted name ++ ": ".toList ++ describe error)
  pure false

/-- Say that a directory was made, when that is asked for. -/
def mention (arguments : Arguments) (name : Octets) : Procedure Unit :=
  if arguments.has 'v' then
    put ("mkdir: created directory ".toList ++ quoted name ++ ['\n'])
  else pure ()

/-- Make the directories whose names are the beginnings of some name. -/
def ancestors (arguments : Arguments) (name : Octets) : List Nat → Procedure Bool
  | [] => pure true
  | count :: rest => do
    let part := name.take count
    match ← Procedure.call (.createDirectory (nameOf part)) with
    | .ok _ => do
      mention arguments part
      ancestors arguments name rest
    | .error error =>
      if ← isDirectory part then ancestors arguments name rest else refuse part error

/-- The lengths of those beginnings of a name that end before a slash, and of all of it. -/
def cuts (name : Octets) : List Nat :=
  ((List.range (name.length + 1)).drop 1).filter fun count =>
    name[count - 1]? != some '/' && (count = name.length || name[count]? = some '/')

/-- Make a directory. -/
def one (arguments : Arguments) (name : Octets) : Procedure Bool := do
  if arguments.has 'p' then ancestors arguments name (cuts name)
  else
    match ← Procedure.call (.createDirectory (nameOf name)) with
    | .ok _ => do
      mention arguments name
      pure true
    | .error error => refuse name error

/-- Make directories. -/
def run (arguments : Arguments) : Procedure Nat := do
  if arguments.operands.isEmpty then
    misuse "mkdir" "missing operand".toList
    pure 1
  else
    return codeOf (← allOf (one arguments) arguments.operands)

end Mkdir

end CompilePlayground.Utility
