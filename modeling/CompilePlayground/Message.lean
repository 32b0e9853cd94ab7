import CompilePlayground.Json.Record

namespace CompilePlayground

/-!
# Messages on the wire

Three records travel as JSON: what the browser extension asks, what it is answered,
and the link of a category page. Each is written with its fields in a fixed order
and read from an object or a list.
-/

/-- What the extension asks for: an action, and an argument of any shape. -/
structure ExtensionRequest where
  action : String
  argument : Json.Value
  deriving Repr

/-- What the extension is answered. -/
structure ExtensionResponse where
  success : Bool
  error? : Option String
  deriving Repr, DecidableEq

/-- A link of a category page. -/
structure LinkItem where
  title : String
  href? : Option String
  deriving Repr, DecidableEq

/-- A text, or null in its place. -/
def Json.Value.ofText? : Option String → Json.Value
  | some words => .text words
  | none => .null

namespace ExtensionRequest

/-- The request as a JSON value. -/
def toJson (request : ExtensionRequest) : Json.Value :=
  .object [("action", .text request.action), ("arg", request.argument)]

/-- The request as JSON text. -/
def write (request : ExtensionRequest) : String :=
  request.toJson.write

/-- The parts of a request that are read so far. -/
structure Parts where
  action? : Option String
  argument? : Option Json.Value

/-- An action is needed; a missing argument is null. Lists and objects of the argument
stand inside the request, which takes one level of nesting. -/
def kind : Json.RecordKind Parts :=
  { name := "ExtensionRequest"
    fields :=
      [{ name := "action"
         isSet := fun parts => parts.action?.isSome
         read := fun cursor =>
           Json.andThen (Json.readText cursor) fun action later =>
             .ok (fun parts => { parts with action? := some action }, later)
         neededInObject := true
         neededInList := true },
       { name := "arg"
         isSet := fun parts => parts.argument?.isSome
         read := fun cursor =>
           Json.andThen (Json.readValue (Json.depthLimit - 1) cursor) fun argument later =>
             .ok (fun parts => { parts with argument? := some argument }, later)
         neededInObject := false
         neededInList := false }] }

/-- The request that the parts make. -/
def ofParts (parts : Parts) : ExtensionRequest :=
  { action := parts.action?.getD "", argument := parts.argument?.getD .null }

/-- Read a request from JSON text. -/
def read (input : Bytes) : Except Json.Fault ExtensionRequest :=
  (Json.readWhole (kind.read ⟨none, none⟩) input).map ofParts

end ExtensionRequest

namespace ExtensionResponse

/-- The answer as a JSON value; an error is named only if there is one. -/
def toJson (response : ExtensionResponse) : Json.Value :=
  match response.error? with
  | none => .object [("success", .boolean response.success)]
  | some error => .object [("success", .boolean response.success), ("error", .text error)]

/-- The answer as JSON text. -/
def write (response : ExtensionResponse) : String :=
  response.toJson.write

/-- The parts of an answer that are read so far. -/
structure Parts where
  success? : Option Bool
  error? : Option (Option String)

/-- Success is needed; a missing error is none. -/
def kind : Json.RecordKind Parts :=
  { name := "ExtensionResponse"
    fields :=
      [{ name := "success"
         isSet := fun parts => parts.success?.isSome
         read := fun cursor =>
           Json.andThen (Json.readBoolean cursor) fun success later =>
             .ok (fun parts => { parts with success? := some success }, later)
         neededInObject := true
         neededInList := true },
       { name := "error"
         isSet := fun parts => parts.error?.isSome
         read := fun cursor =>
           Json.andThen (Json.readText? cursor) fun error later =>
             .ok (fun parts => { parts with error? := some error }, later)
         neededInObject := false
         neededInList := true }] }

/-- The answer that the parts make. -/
def ofParts (parts : Parts) : ExtensionResponse :=
  { success := parts.success?.getD false, error? := parts.error?.getD none }

/-- Read an answer from JSON text. -/
def read (input : Bytes) : Except Json.Fault ExtensionResponse :=
  (Json.readWhole (kind.read ⟨none, none⟩) input).map ofParts

end ExtensionResponse

namespace LinkItem

/-- The link as a JSON value. -/
def toJson (item : LinkItem) : Json.Value :=
  .object [("title", .text item.title), ("href", .ofText? item.href?)]

/-- The link as JSON text. -/
def write (item : LinkItem) : String :=
  item.toJson.write

/-- A list of links as JSON text. -/
def writeList (items : List LinkItem) : String :=
  (Json.Value.list (items.map toJson)).write

/-- The parts of a link that are read so far. -/
structure Parts where
  title? : Option String
  href? : Option (Option String)

/-- A title is needed; a missing reference is none. -/
def kind : Json.RecordKind Parts :=
  { name := "LinkItem"
    fields :=
      [{ name := "title"
         isSet := fun parts => parts.title?.isSome
         read := fun cursor =>
           Json.andThen (Json.readText cursor) fun title later =>
             .ok (fun parts => { parts with title? := some title }, later)
         neededInObject := true
         neededInList := true },
       { name := "href"
         isSet := fun parts => parts.href?.isSome
         read := fun cursor =>
           Json.andThen (Json.readText? cursor) fun href later =>
             .ok (fun parts => { parts with href? := some href }, later)
         neededInObject := false
         neededInList := true }] }

/-- The link that the parts make. -/
def ofParts (parts : Parts) : LinkItem :=
  { title := parts.title?.getD "", href? := parts.href?.getD none }

/-- Read a link from JSON text. -/
def read (input : Bytes) : Except Json.Fault LinkItem :=
  (Json.readWhole (kind.read ⟨none, none⟩) input).map ofParts

/-- Read a list of links from JSON text. -/
def readList (input : Bytes) : Except Json.Fault (List LinkItem) :=
  (Json.readWhole (Json.readList (kind.read ⟨none, none⟩)) input).map (·.map ofParts)

end LinkItem

end CompilePlayground
