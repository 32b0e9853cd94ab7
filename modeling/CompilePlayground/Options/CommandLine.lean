import CompilePlayground.Options.Value

namespace CompilePlayground.Options

/-!
# Reading the command line

Arguments are read from left to right. An option whose value stands in the next argument
is pending until that argument is read, and it is checked when the next option begins or
the line ends. What an unknown argument comes after is not checked any more.
-/

/-- An option that waits for its value, or has it in an argument of its own. -/
structure Pending where
  flag : Flag
  value? : Option Bytes
  deriving Repr, DecidableEq

/-- What is read so far: the options given, in order, each with its values, and the one
that is pending. After a double hyphen no argument is an option. -/
structure CommandLine where
  given : List (Flag × List Bytes)
  pending? : Option Pending
  ended : Bool
  deriving Repr, DecidableEq

namespace CommandLine

/-- A line of which nothing is read. -/
def start : CommandLine :=
  ⟨[], none, false⟩

/-- The values that an option was given. -/
def values? (line : CommandLine) (flag : Flag) : Option (List Bytes) :=
  (line.given.find? (·.1 == flag)).map (·.2)

/-- The usages of the options given. -/
def used (line : CommandLine) : List String :=
  line.given.map (·.1.usage)

/-- Add values to an option, which counts as given from then on. -/
def record (line : CommandLine) (flag : Flag) (values : List Bytes) : CommandLine :=
  if (line.values? flag).isSome then
    { line with given := line.given.map fun (other, before) =>
        if other == flag then (other, before ++ values) else (other, before) }
  else
    { line with given := line.given ++ [(flag, values)] }

/-- Forget that an option was given. -/
def forget (line : CommandLine) (flag : Flag) : CommandLine :=
  { line with given := line.given.filter (·.1 != flag) }

/-- Give an option its value: the line after it, and what is wrong with it. -/
def give (line : CommandLine) (flag : Flag) (written : Bytes) : CommandLine × Except Failure Unit :=
  if (line.values? flag).isSome && !flag.repeats then
    (line.forget flag, .error (.repeated flag))
  else
    (line.record flag (flag.pieces written), flag.checkAll (flag.pieces written))

/-- Give the pending option the value that it has. -/
def settle (line : CommandLine) : CommandLine × Except Failure Unit :=
  let settled := { line with pending? := none }
  match line.pending? with
  | none => (settled, .ok ())
  | some ⟨flag, none⟩ => (settled, .error (.missing flag))
  | some ⟨flag, some value⟩ => settled.give flag value

/-- Go on with the line once the pending option has its value. -/
def settled (line : CommandLine) : Except Failure CommandLine :=
  match line.settle with
  | (line, .ok ()) => .ok line
  | (_, .error failure) => .error failure

/-- Give an option a value that is written with it. -/
def giveAttached
    (line : CommandLine)
    (flag : Flag)
    (written : Bytes) :
    Except Failure CommandLine :=
  match line.settled with
  | .error failure => .error failure
  | .ok line =>
      match line.give flag written with
      | (line, .ok ()) => .ok line
      | (_, .error failure) => .error failure

/-- The names that an unknown one may be meant for. -/
def knownNames : List String :=
  Flag.all.map Flag.name ++ ["help"]

/-- How an option of a name stands in a usage line. -/
def usageOf (name : String) : String :=
  ((Flag.ofName? name).map Flag.usage).getD ("--" ++ name)

/-- An argument that no option expects. -/
def unexpected (argument : String) : Failure :=
  .unknown argument none []

/-- A name that no option has. -/
def unknownName (line : CommandLine) (name : String) : Failure :=
  let similar? := Text.mostAlike? name knownNames
  .unknown ("--" ++ name) (similar?.map ("--" ++ ·))
    (line.settle.1.used ++ (similar?.map usageOf).toList)

/-- A value for an option that has none. -/
def unneeded (line : CommandLine) (usage : String) (value : Bytes) : Failure :=
  .unneeded usage (Text.Utf8.decodeLossy value) (line.used ++ [usage])

/-- Give help, unless the pending option is wrong. -/
def help (line : CommandLine) : Except Failure CommandLine :=
  match line.settled with
  | .error failure => .error failure
  | .ok _ => .error .help

/-- Split bytes at the first equals sign. -/
def splitEquals : Bytes → Bytes × Option Bytes
  | [] => ([], none)
  | byte :: rest =>
      if byte = 61 then ([], some rest)
      else
        let (name, value?) := splitEquals rest
        (byte :: name, value?)

/-- Read an argument that names an option in full. -/
def readLong (line : CommandLine) (written : Bytes) : Except Failure CommandLine :=
  let (rawName, value?) := splitEquals written
  let name := Text.Utf8.decodeLossy rawName
  match Flag.ofName? name, value? with
  | some flag, some value =>
      if flag.takesValue then line.giveAttached flag value
      else .error (line.unneeded flag.usage value)
  | some flag, none =>
      if flag.takesValue then
        line.settled.map fun line => { line with pending? := some ⟨flag, none⟩ }
      else
        line.giveAttached flag (Text.Utf8.encode "true")
  | none, none =>
      if name == "help" then line.help else .error (line.unknownName name)
  | none, some value =>
      .error (if name == "help" then line.unneeded "--help" value else line.unknownName name)

/-- Read an argument of one hyphen and letters, of which only the one for help is known. -/
def readShort
    (line : CommandLine)
    (first : UInt8)
    (rest : Bytes) :
    Except Failure CommandLine :=
  match (Text.Utf8.next first rest).1 with
  | .scalar 'h' => line.help
  | .scalar letter => .error (unexpected (String.ofList ['-', letter]))
  | _ => .error (unexpected ("-" ++ Text.Utf8.decodeLossy (first :: rest)))

/-- Whether the pending option takes any argument as its value. -/
def takesAnything (line : CommandLine) : Bool :=
  line.pending?.any fun pending => pending.flag.repeats && pending.value?.isNone

/-- Read an argument that is no option. -/
def readValue (line : CommandLine) (written : Bytes) : Except Failure CommandLine :=
  match line.pending? with
  | some ⟨flag, none⟩ => .ok { line with pending? := some ⟨flag, some written⟩ }
  | _ => .error (unexpected (Text.Utf8.decodeLossy written))

/-- Read one argument. -/
def read (line : CommandLine) (written : Bytes) : Except Failure CommandLine :=
  if line.ended then .error (unexpected (Text.Utf8.decodeLossy written))
  else if line.takesAnything then line.readValue written
  else
    match written with
    | [45, 45] => .ok { line with ended := true }
    | 45 :: 45 :: name => line.readLong name
    | 45 :: first :: rest => line.readShort first rest
    | _ => line.readValue written

/-- Read the arguments that are left. -/
def readAll (line : CommandLine) : List Bytes → Except Failure CommandLine
  | [] => line.settled
  | written :: rest =>
      match line.read written with
      | .error failure => .error failure
      | .ok line => line.readAll rest

end CommandLine

end CompilePlayground.Options
