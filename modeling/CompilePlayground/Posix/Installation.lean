import CompilePlayground.Posix.Turn
import CompilePlayground.Shell.Interpreter
import CompilePlayground.Utility.Files
import CompilePlayground.Utility.Filters

namespace CompilePlayground.Posix.Installation

/-!
# A machine as it is installed

A fresh machine has a shell and the utilities that scripts use, a device that holds nothing,
and a directory for what is temporary.
-/

/-- The programs of a fresh machine by their names. -/
def programs : List (String × (Invocation → Program)) :=
  [
    ("sh", Shell.Interpreter.start),
    ("dash", Shell.Interpreter.start),
    ("cat", Utility.program Utility.Cat.manual Utility.Cat.run),
    ("ls", Utility.program Utility.Ls.manual Utility.Ls.run),
    ("rm", Utility.program Utility.Rm.manual Utility.Rm.run),
    ("mv", Utility.program Utility.Mv.manual Utility.Mv.run),
    ("ln", Utility.program Utility.Ln.manual Utility.Ln.run),
    ("mkdir", Utility.program Utility.Mkdir.manual Utility.Mkdir.run),
    ("wc", Utility.program Utility.Wc.manual Utility.Wc.run),
    ("tr", Utility.program Utility.Tr.manual Utility.Tr.run),
    ("sleep", Utility.program Utility.Sleep.manual Utility.Sleep.run),
    ("echo", Utility.Echo.start),
    ("true", fun _ => .exit 0),
    ("false", fun _ => .exit 1)]

/-- A path from the names of its steps. -/
def pathOf (steps : List String) : Path :=
  steps.map Text.Octets.ascii

/-- The directory that programs stand in. -/
def programDirectory : Path :=
  pathOf ["usr", "bin"]

/-- The path that programs are looked for on. -/
def searchPath : Bytes :=
  Text.Octets.ascii "/usr/local/sbin:/usr/local/bin:/usr/sbin:/usr/bin:/sbin:/bin"

/-- Put a program where programs stand. -/
def install (disk : Disk) (named : String × (Invocation → Program)) : Disk :=
  (disk.addFile (programDirectory ++ pathOf [named.1])
    { content := .program named.2, mode := 0o755, modified := 0 }).2

/-- The disk of a fresh machine. -/
def disk : Disk :=
  let directories :=
    [["usr"], ["usr", "bin"], ["usr", "sbin"], ["usr", "local"], ["usr", "local", "bin"],
      ["usr", "local", "sbin"], ["tmp"], ["dev"], ["root"]].map pathOf
  let bare := directories.foldl Disk.addDirectory Disk.empty
  let linked :=
    (bare.insert (pathOf ["bin"]) (.link (Text.Octets.ascii "usr/bin"))).insert
      (pathOf ["sbin"]) (.link (Text.Octets.ascii "usr/sbin"))
  let withDevice :=
    (linked.addFile (pathOf ["dev", "null"])
      { content := .void, mode := 0o666, modified := 0 }).2
  programs.foldl install withDevice

/-- A fresh machine with one more directory that holds nothing. -/
def machine (scratch : Path) : Machine :=
  Machine.ofDisk (disk.addDirectory scratch)

/-- The variables that programs are started with. -/
def environment : List (Bytes × Bytes) :=
  [(Text.Octets.ascii "PATH", searchPath), (Text.Octets.ascii "LC_ALL", Text.Octets.ascii "C")]

end CompilePlayground.Posix.Installation
