import CompilePlayground.Network.Address
import CompilePlayground.Text.Utf8

namespace CompilePlayground.Http

open Network

/-!
# Requests and responses

A `Request` names a method and what it is aimed at, and carries header fields and a body. A
`Response` has a status, header fields and a body. Field names are the same whatever case
they are written in; the first field of a name counts where one is looked for.
-/

/-- A header field. -/
structure Field where
  name : String
  value : Bytes
  deriving Repr, DecidableEq

/-- A request, with the endpoint that it came from where that is known. -/
structure Request where
  method : String
  target : String
  fields : List Field
  body : Bytes
  peer? : Option Endpoint
  deriving Repr, DecidableEq

/-- A response. -/
structure Response where
  status : Nat
  fields : List Field
  body : Bytes
  deriving Repr, DecidableEq

/-- The text of a field, as long as all of it can be seen. -/
def Field.text? (field : Field) : Option String :=
  if field.value.all fun byte => byte = 9 || (32 ≤ byte && byte < 127) then
    some (Text.Utf8.decodeLossy field.value)
  else
    none

/-- A field with a text. -/
def Field.ofText (name text : String) : Field :=
  ⟨name, Text.Utf8.encode text⟩

namespace Request

/-- The fields of a name. -/
def fieldsOf (request : Request) (name : String) : List Field :=
  request.fields.filter fun field => field.name.toLower == name

/-- The first field of a name. -/
def field? (request : Request) (name : String) : Option Field :=
  (request.fieldsOf name).head?

/-- The text of the first field of a name. -/
def text? (request : Request) (name : String) : Option String :=
  (request.field? name).bind Field.text?

/-- The part of a target that stands before its query. -/
def beforeQuery (target : List Char) : List Char :=
  target.takeWhile fun character => character ≠ '?' && character ≠ '#'

/-- What stands after the scheme of an absolute target. -/
def afterScheme? : List Char → Option (List Char)
  | ':' :: '/' :: '/' :: rest => some rest
  | character :: rest =>
    if character = '/' || character = '?' || character = '#' then none else afterScheme? rest
  | [] => none

/-- The path that a target leads to. Of an absolute target it is what follows the host, a
single slash if nothing does; a bare host has none. -/
def pathOf (target : List Char) : List Char :=
  match target with
  | '/' :: _ => beforeQuery target
  | '*' :: _ => beforeQuery target
  | _ =>
    match afterScheme? target with
    | none => []
    | some rest =>
      match beforeQuery (rest.dropWhile fun c => c ≠ '/' && c ≠ '?' && c ≠ '#') with
      | [] => ['/']
      | path => path

/-- The path that a request is aimed at. Nothing in it is decoded. -/
def path (request : Request) : String :=
  String.ofList (pathOf request.target.toList)

end Request

namespace Response

/-- A response of which only the status says something. -/
def bare (status : Nat) : Response :=
  ⟨status, [], []⟩

/-- A response with a text of some media type. -/
def ofText (status : Nat) (mediaType text : String) : Response :=
  ⟨status, [.ofText "content-type" mediaType], Text.Utf8.encode text⟩

/-- A response with a text that people read. -/
def plain (status : Nat) (text : String) : Response :=
  .ofText status "text/plain; charset=utf-8" text

/-- A response with JSON. -/
def json (status : Nat) (text : String) : Response :=
  .ofText status "application/json" text

/-- Whether a response has a field of a name. -/
def has (response : Response) (name : String) : Bool :=
  response.fields.any fun field => field.name == name

/-- A response with more fields. -/
def withFields (response : Response) (fields : List Field) : Response :=
  { response with fields := response.fields ++ fields }

/-- A response with a field unless it has one of that name. -/
def withDefault (response : Response) (field : Field) : Response :=
  if response.has field.name then response else response.withFields [field]

/-- A response without its body. -/
def withoutBody (response : Response) : Response :=
  { response with body := [] }

/-- Fields that are added leave those that were there. -/
theorem mem_withFields
    (response : Response)
    (fields : List Field)
    (field : Field) :
    field ∈ (response.withFields fields).fields ↔
      field ∈ response.fields ∨ field ∈ fields := by
  simp [withFields]

/-- Adding a field that may be there leaves those that were there. -/
theorem mem_withDefault_of_mem
    (response : Response)
    (added : Field)
    {field : Field}
    (present : field ∈ response.fields) :
    field ∈ (response.withDefault added).fields := by
  unfold withDefault
  split
  · exact present
  · exact (mem_withFields ..).2 (Or.inl present)

end Response

end CompilePlayground.Http
