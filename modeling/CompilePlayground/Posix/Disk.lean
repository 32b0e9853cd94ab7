import CompilePlayground.Posix.Path
import CompilePlayground.Posix.Program

namespace CompilePlayground.Posix

/-!
# Files and directories

A `Disk` says for every path what stands there. The content of a file is kept apart from its
names, so that a file may have several names, and none while a program still has it open. A
name is followed step by step through directories and symbolic links by `Disk.locate`.
-/

/-- What a file holds: bytes, nothing at all as a device, or a program that the machine runs
itself. -/
inductive Content where
  | bytes (value : Bytes)
  | void
  | program (start : Invocation → Program)

/-- A file apart from its names. Times are in seconds. -/
structure File where
  content : Content
  mode : Nat
  modified : Nat

/-- The bytes that reading a file gives. -/
def File.bytes (file : File) : Bytes :=
  match file.content with
  | .bytes value => value
  | .void => []
  | .program _ => [127, 69, 76, 70]

/-- A file without any bytes. A device stays as it is. -/
def File.emptied (time : Nat) (file : File) : File :=
  match file.content with
  | .void => file
  | _ => { file with content := .bytes [], modified := time }

/-- A file with some bytes in place of those from an offset on, with zeros before them where it was
shorter. A device stays as it is. -/
def File.filledAt (offset time : Nat) (bytes : Bytes) (file : File) : File :=
  match file.content with
  | .void => file
  | _ =>
    let filled := file.bytes.take offset ++ List.replicate (offset - file.bytes.length) 0
    { file with
      content := .bytes (filled ++ bytes ++ file.bytes.drop (offset + bytes.length)),
      modified := time }

/-- Whether anyone may run a file. -/
def File.isExecutable (file : File) : Bool :=
  file.mode &&& 0o111 != 0

/-- What stands at a path. -/
inductive Node where
  | file (id : Nat)
  | directory (id : Nat)
  | link (target : Bytes)
  deriving Repr, DecidableEq

/-- All files and directories. The root is not among the entries. -/
structure Disk where
  entries : List (Path × Node)
  files : List (Nat × File)
  fresh : Nat

/-- Where a name leads. -/
inductive Place where
  | existing (path : Path) (node : Node)
  | vacant (path : Path)
  deriving Repr, DecidableEq

namespace Disk

/-- The number of the root directory. -/
def rootId : Nat := 0

/-- A disk with nothing on it. -/
def empty : Disk :=
  { entries := [], files := [], fresh := 1 }

/-- What stands at a path. -/
def node? (disk : Disk) (path : Path) : Option Node :=
  if path = [] then some (.directory rootId) else disk.entries.lookup path

/-- The file with a number. -/
def file? (disk : Disk) (id : Nat) : Option File :=
  disk.files.lookup id

/-- Put something at a path that nothing stands at. -/
def insert (disk : Disk) (path : Path) (node : Node) : Disk :=
  { disk with entries := (path, node) :: disk.entries }

/-- Take away what stands at a path. -/
def erase (disk : Disk) (path : Path) : Disk :=
  { disk with entries := disk.entries.filter fun entry => entry.1 != path }

/-- Take away all that stands at a path and below it. -/
def eraseTree (disk : Disk) (path : Path) : Disk :=
  { disk with entries := disk.entries.filter fun entry => !Path.isWithin entry.1 path }

/-- Change the file with a number. -/
def updateFile (disk : Disk) (id : Nat) (change : File → File) : Disk :=
  { disk with
    files := disk.files.map fun entry =>
      if entry.1 = id then (id, change entry.2) else entry }

/-- A new file at a path that nothing stands at, with its number. -/
def addFile (disk : Disk) (path : Path) (file : File) : Nat × Disk :=
  (disk.fresh,
    { entries := (path, .file disk.fresh) :: disk.entries,
      files := (disk.fresh, file) :: disk.files,
      fresh := disk.fresh + 1 })

/-- A new directory at a path that nothing stands at. -/
def addDirectory (disk : Disk) (path : Path) : Disk :=
  { disk with
    entries := (path, .directory disk.fresh) :: disk.entries,
    fresh := disk.fresh + 1 }

/-- The names of what a directory holds. -/
def children (disk : Disk) (path : Path) : List Bytes :=
  disk.entries.filterMap fun entry =>
    if entry.1.dropLast = path then entry.1.getLast? else none

/-- Where a directory stands, as long as it has not been removed. -/
def directoryPath? (disk : Disk) (id : Nat) : Option Path :=
  if id = rootId then some []
  else (disk.entries.find? fun entry => entry.2 = .directory id).map Prod.fst

/-- How many symbolic links one name may lead through. -/
def linkLimit : Nat := 40

/-- Take the steps of a name from a directory. A symbolic link among them goes on by
`again`; the last one only when it is to be followed. -/
def walkWith
    (disk : Disk)
    (follow : Bool)
    (again : Path → List Bytes → Reply Place) :
    Path → List Bytes → Reply Place
  | path, [] =>
    match disk.node? path with
    | some node => .ok (.existing path node)
    | none => .error .notFound
  | path, step :: rest =>
    match disk.node? path with
    | none => .error .notFound
    | some (.directory _) =>
      if step = Path.here then walkWith disk follow again path rest
      else if step = Path.above then walkWith disk follow again path.dropLast rest
      else if Path.stepLimit < step.length then .error .nameTooLong
      else
        match disk.node? (path ++ [step]) with
        | none => if rest.isEmpty then .ok (.vacant (path ++ [step])) else .error .notFound
        | some (.link target) =>
          if rest.isEmpty && !follow then
            .ok (.existing (path ++ [step]) (.link target))
          else
            again (if Path.isAbsolute target then [] else path) (Path.steps target ++ rest)
        | some _ => walkWith disk follow again (path ++ [step]) rest
    | some _ => .error .notDirectory

/-- Take the steps of a name from a directory, through a bounded number of links. -/
def walk (disk : Disk) (follow : Bool) : Nat → Path → List Bytes → Reply Place
  | 0 => disk.walkWith follow fun _ _ => .error .linkLoop
  | links + 1 => disk.walkWith follow (disk.walk follow links)

/-- Where a name leads from a directory. Without a directory to start from, only a name that
begins at the root leads anywhere. -/
def locate (disk : Disk) (start? : Option Path) (follow : Bool) (name : Bytes) : Reply Place :=
  if name.isEmpty then .error .notFound
  else if Path.nameLimit ≤ name.length then .error .nameTooLong
  else if Path.isAbsolute name then
    disk.walk follow linkLimit [] (Path.steps name)
  else
    match start? with
    | some start => disk.walk follow linkLimit start (Path.steps name)
    | none => .error .notFound

/-- What a name leads to, which has to exist. -/
def find (disk : Disk) (start? : Option Path) (follow : Bool) (name : Bytes) :
    Reply (Path × Node) :=
  match disk.locate start? follow name with
  | .ok (.existing path node) => .ok (path, node)
  | .ok (.vacant _) => .error .notFound
  | .error error => .error error

/-- The file that a name leads to. -/
def findFile (disk : Disk) (start? : Option Path) (name : Bytes) : Reply (Nat × File) :=
  match disk.find start? true name with
  | .ok (_, .file id) =>
    match disk.file? id with
    | some file => .ok (id, file)
    | none => .error .notFound
  | .ok (_, .directory _) => .error .isDirectory
  | .ok (_, .link _) => .error .linkLoop
  | .error error => .error error

/-- The bytes of the file that a name leads to. -/
def read (disk : Disk) (start? : Option Path) (name : Bytes) : Reply Bytes :=
  match disk.findFile start? name with
  | .ok (_, file) => .ok file.bytes
  | .error error => .error error

/-- The permission bits of a file that is made without saying more. -/
def standardMode : Nat := 0o644

/-- The file that a name leads to, which is made when there is none. -/
def obtainFile (disk : Disk) (start? : Option Path) (time : Nat) (name : Bytes) :
    Reply (Nat × Disk) :=
  match disk.locate start? true name with
  | .ok (.existing _ (.file id)) => .ok (id, disk)
  | .ok (.existing _ (.directory _)) => .error .isDirectory
  | .ok (.existing _ (.link _)) => .error .linkLoop
  | .ok (.vacant path) =>
    .ok (disk.addFile path { content := .bytes [], mode := standardMode, modified := time })
  | .error error =>
    if error = .notFound && name.getLast? == some slash then .error .isDirectory
    else .error error

/-- Put bytes into a file in place of those from an offset on. -/
def writeAt (disk : Disk) (id offset time : Nat) (bytes : Bytes) : Disk :=
  disk.updateFile id (File.filledAt offset time bytes)

/-- Empty a file. -/
def truncate (disk : Disk) (id time : Nat) : Disk :=
  disk.updateFile id (File.emptied time)

/-- Make the file that a name leads to hold some bytes and no others. -/
def write (disk : Disk) (start? : Option Path) (time : Nat) (name bytes : Bytes) :
    Reply Disk :=
  match disk.obtainFile start? time name with
  | .ok (id, next) => .ok ((next.truncate id time).writeAt id 0 time bytes)
  | .error error => .error error

/-- Make one directory. -/
def createDirectory (disk : Disk) (start? : Option Path) (name : Bytes) : Reply Disk :=
  match disk.locate start? false (Path.trimmed name) with
  | .ok (.existing _ _) => .error .alreadyExists
  | .ok (.vacant path) => .ok (disk.addDirectory path)
  | .error error => .error error

/-- Whether a name leads to a directory. -/
def isDirectory (disk : Disk) (start? : Option Path) (name : Bytes) : Bool :=
  match disk.find start? true name with
  | .ok (_, .directory _) => true
  | _ => false

/-- Take away a name of a file or a symbolic link. -/
def removeFile (disk : Disk) (start? : Option Path) (name : Bytes) : Reply Disk :=
  match disk.find start? false name with
  | .ok (_, .directory _) => .error .isDirectory
  | .ok (path, _) => .ok (disk.erase path)
  | .error error => .error error

/-- Take away an empty directory. -/
def removeDirectory (disk : Disk) (start? : Option Path) (name : Bytes) : Reply Disk :=
  match disk.find start? false name with
  | .ok (path, .directory _) =>
    if path.isEmpty then .error .busy
    else if (disk.children path).isEmpty then .ok (disk.erase path)
    else .error .notEmpty
  | .ok _ => .error .notDirectory
  | .error error => .error error

/-- Take away a directory with all that is in it, or a symbolic link. -/
def removeTree (disk : Disk) (start? : Option Path) (name : Bytes) : Reply Disk :=
  match disk.find start? false name with
  | .ok (path, .directory _) =>
    if path.isEmpty then .error .busy else .ok (disk.eraseTree path)
  | .ok (path, .link _) => .ok (disk.erase path)
  | .ok (_, .file _) => .error .notDirectory
  | .error error => .error error

/-- Give another path to all that stands at a path and below it. -/
def moveTree (disk : Disk) (source target : Path) : Disk :=
  { disk with
    entries := disk.entries.map fun entry =>
      if Path.isWithin entry.1 source then
        (target ++ entry.1.drop source.length, entry.2)
      else
        entry }

/-- Give another name to a file or directory. What had that name is replaced when it is of the
same sort, and a directory only when it is empty. -/
def rename (disk : Disk) (start? : Option Path) (source target : Bytes) : Reply Disk :=
  match disk.find start? false (Path.trimmed source) with
  | .error error => .error error
  | .ok (sourcePath, sourceNode) =>
    match disk.locate start? false (Path.trimmed target) with
    | .error error => .error error
    | .ok (.vacant targetPath) =>
      if Path.isWithin targetPath sourcePath then .error .invalid
      else .ok (disk.moveTree sourcePath targetPath)
    | .ok (.existing targetPath targetNode) =>
      if sourcePath = targetPath || sourceNode = targetNode then .ok disk
      else if Path.isWithin targetPath sourcePath then .error .invalid
      else
        match sourceNode, targetNode with
        | .directory _, .directory _ =>
          if (disk.children targetPath).isEmpty then
            .ok ((disk.erase targetPath).moveTree sourcePath targetPath)
          else .error .notEmpty
        | .directory _, _ => .error .notDirectory
        | _, .directory _ => .error .isDirectory
        | _, _ => .ok ((disk.erase targetPath).moveTree sourcePath targetPath)

/-- Give one more name to a file. -/
def link (disk : Disk) (start? : Option Path) (source target : Bytes) : Reply Disk :=
  match disk.find start? false source with
  | .error error => .error error
  | .ok (_, .directory _) => .error .notPermitted
  | .ok (_, node) =>
    match disk.locate start? false target with
    | .error error => .error error
    | .ok (.existing _ _) => .error .alreadyExists
    | .ok (.vacant path) => .ok (disk.insert path node)

/-- Make a symbolic link. -/
def symbolicLink (disk : Disk) (start? : Option Path) (target name : Bytes) : Reply Disk :=
  match disk.locate start? false name with
  | .error error => .error error
  | .ok (.existing _ _) => .error .alreadyExists
  | .ok (.vacant path) => .ok (disk.insert path (.link target))

/-- Set the permission bits of a file. -/
def changeMode (disk : Disk) (start? : Option Path) (name : Bytes) (mode : Nat) :
    Reply Disk :=
  match disk.find start? true name with
  | .error error => .error error
  | .ok (_, .file id) => .ok (disk.updateFile id fun file => { file with mode := mode })
  | .ok _ => .ok disk

/-- What can be learned about a node without opening it. -/
def describe (disk : Disk) : Node → FileStatus
  | .directory id => ⟨.directory, id, 4096, 0o755, 0⟩
  | .link target => ⟨.link, 0, target.length, 0o777, 0⟩
  | .file id =>
    match disk.file? id with
    | some file =>
      match file.content with
      | .void => ⟨.device, id, 0, file.mode, file.modified⟩
      | _ => ⟨.plain, id, file.bytes.length, file.mode, file.modified⟩
    | none => ⟨.plain, id, 0, 0, 0⟩

/-- The names in a directory, in the order of their bytes. -/
def list (disk : Disk) (start? : Option Path) (name : Bytes) : Reply (List Bytes) :=
  match disk.find start? true name with
  | .ok (path, .directory _) => .ok ((disk.children path).mergeSort fun a b => a ≤ b)
  | .ok _ => .error .notDirectory
  | .error error => .error error

/-- All paths below a directory, relative to it, as they are written: directories end in a
slash, and the order is that of the bytes. -/
def listing (disk : Disk) (directory : Path) : List Bytes :=
  let below := disk.entries.filterMap fun entry =>
    if Path.isWithin entry.1 directory && entry.1 != directory then
      let name := ((Path.write (entry.1.drop directory.length)).drop 1)
      match entry.2 with
      | .directory _ => some (name ++ [slash])
      | _ => some name
    else
      none
  below.mergeSort fun a b => a ≤ b

/-- Try to make a directory together with those above it that are missing. A directory that is
there already is no failure, and what was made before something failed stays. The bound counts
the directories above. -/
def tryDirectoriesWithin (disk : Disk) (start? : Option Path) : Nat → Bytes → Disk × Reply Unit
  | 0, _ => (disk, .error .notFound)
  | depth + 1, name =>
    match disk.createDirectory start? name with
    | .ok next => (next, .ok ())
    | .error error =>
      if error = .notFound then
        let parent := Path.parent name
        if parent.isEmpty || parent = Path.trimmed name then (disk, .error error)
        else
          match disk.tryDirectoriesWithin start? depth (Path.trimmed parent) with
          | (next, .error error) => (next, .error error)
          | (next, .ok ()) =>
            match next.createDirectory start? name with
            | .ok made => (made, .ok ())
            | .error error =>
              (next, if next.isDirectory start? name then .ok () else .error error)
      else (disk, if disk.isDirectory start? name then .ok () else .error error)

/-- Try to make a directory together with those above it that are missing. -/
def tryDirectories (disk : Disk) (start? : Option Path) (name : Bytes) : Disk × Reply Unit :=
  if name.isEmpty then (disk, .ok ())
  else disk.tryDirectoriesWithin start? (name.length + 1) name

/-- Make a directory together with those above it that are missing. -/
def createDirectories (disk : Disk) (start? : Option Path) (name : Bytes) : Reply Disk :=
  match disk.tryDirectories start? name with
  | (next, .ok ()) => .ok next
  | (_, .error error) => .error error

/-- Nothing stands on an empty disk but its root. -/
theorem node?_empty
    (path : Path)
    (named : path ≠ []) :
    empty.node? path = none := by
  simp [empty, node?, named]

/-- What is inserted stands at its path. -/
theorem node?_insert_self
    (disk : Disk)
    (path : Path)
    (node : Node)
    (named : path ≠ []) :
    (disk.insert path node).node? path = some node := by
  simp [insert, node?, named]

/-- Inserting changes no other path. -/
theorem node?_insert_of_ne
    (disk : Disk)
    {path other : Path}
    (node : Node)
    (differs : other ≠ path) :
    (disk.insert path node).node? other = disk.node? other := by
  have apart : (other == path) = false := by simpa using differs
  simp [insert, node?, List.lookup_cons, apart]

/-- Changing a file changes no path. -/
@[simp] theorem node?_updateFile
    (disk : Disk)
    (id : Nat)
    (change : File → File)
    (path : Path) :
    (disk.updateFile id change).node? path = disk.node? path :=
  rfl

end Disk

end CompilePlayground.Posix
