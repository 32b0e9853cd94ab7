import CompilePlayground.Text.Utf8

namespace CompilePlayground.Posix

/-!
# Paths

A `Path` leads from the root down to one place, name by name, and has no links in it. What
programs write is a name such as `../a/b`: it begins at the root or at some directory and
is taken step by step.
-/

/-- The way from the root to a place. The root itself is the empty path. -/
abbrev Path := List Bytes

/-- The code of the character that parts the steps of a name. -/
def slash : UInt8 := 47

/-- The code of a full stop. -/
def dot : UInt8 := 46

namespace Path

/-- The step that stays where it is. -/
def here : Bytes := [dot]

/-- The step to the directory above. -/
def above : Bytes := [dot, dot]

/-- The longest name that one step may have. -/
def stepLimit : Nat := 255

/-- The longest name that the system takes, with the byte that ends it. -/
def nameLimit : Nat := 4096

/-- The parts of a name between its slashes, empty ones included. -/
def parts : Bytes → List Bytes
  | [] => [[]]
  | byte :: rest =>
    if byte = slash then
      [] :: parts rest
    else
      match parts rest with
      | [] => [[byte]]
      | part :: more => (byte :: part) :: more

/-- The steps of a name. A slash at the end asks for a directory, which one more step that
stays there asks for too. -/
def steps (name : Bytes) : List Bytes :=
  let named := (parts name).filter fun part => !part.isEmpty
  if !named.isEmpty && name.getLast? == some slash then named ++ [here] else named

/-- Whether a name begins at the root. -/
def isAbsolute (name : Bytes) : Bool :=
  name.head? == some slash

/-- A path as it is written. -/
def write : Path → Bytes
  | [] => [slash]
  | path => path.flatMap fun step => slash :: step

/-- The name of one place below another that has a name. -/
def join (directory name : Bytes) : Bytes :=
  if isAbsolute name then name
  else if directory.isEmpty then name
  else if directory.getLast? == some slash then directory ++ name
  else directory ++ slash :: name

/-- A path stands below another one, or is the same. -/
def isWithin (path ancestor : Path) : Bool :=
  ancestor.isPrefixOf path

/-- A name without the slashes at its end. The root keeps its one. -/
def trimmed (name : Bytes) : Bytes :=
  let short := (name.reverse.dropWhile (· == slash)).reverse
  if short.isEmpty && !name.isEmpty then [slash] else short

/-- What stands after the last slash of a name. -/
def lastStep (name : Bytes) : Bytes :=
  (name.reverse.takeWhile (· != slash)).reverse

/-- What stands before the last step of a name. It is empty when the name has but one step. -/
def parent (name : Bytes) : Bytes :=
  (trimmed name).take ((trimmed name).length - (lastStep (trimmed name)).length)

/-- Every path stands within itself. -/
theorem isWithin_self (path : Path) : isWithin path path = true := by
  simp [isWithin]

end Path

end CompilePlayground.Posix
