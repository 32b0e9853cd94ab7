import CompilePlayground.Http.Message
import CompilePlayground.Text.Blank

namespace CompilePlayground.Http.Wire

/-!
# Requests and responses as bytes

A request is a line with a method, a target and a version, then lines with fields, an empty
line and the body. The field `content-length` says how long the body is. A response is
written in the same way.
-/

/-- The bytes that end a line. -/
def lineEnd : Bytes := [13, 10]

/-- The code of a line feed. -/
def lineFeed : UInt8 := 10

/-- A line without what ends it, and the bytes after it. -/
def splitLine (bytes : Bytes) : Option (Bytes × Bytes) :=
  let line := bytes.takeWhile (· != lineFeed)
  match bytes.drop line.length with
  | [] => none
  | _ :: rest =>
    some (if line.getLast? = some 13 then line.dropLast else line, rest)

/-- Without its line a text is shorter. -/
theorem splitLine_length
    {bytes line rest : Bytes}
    (found : splitLine bytes = some (line, rest)) :
    rest.length < bytes.length := by
  unfold splitLine at found
  simp only at found
  split at found
  · simp at found
  · rename_i first later shape
    simp only [Option.some.injEq, Prod.mk.injEq] at found
    have counted := congrArg List.length shape
    simp only [List.length_drop, List.length_cons] at counted
    rw [← found.2]
    omega

/-- Bytes without the blanks around them. -/
def trimmed (bytes : Bytes) : Bytes :=
  let isBlank (byte : UInt8) : Bool := byte = 32 || byte = 9
  ((bytes.dropWhile isBlank).reverse.dropWhile isBlank).reverse

/-- The field of a line. -/
def readField? (line : Bytes) : Option Field :=
  let name := line.takeWhile (· != 58)
  match line.drop name.length with
  | [] => none
  | _ :: value => some ⟨(Text.Utf8.decodeLossy name).toLower, trimmed value⟩

/-- The fields up to the first empty line, and the bytes after it. -/
def readFields? (bytes : Bytes) : Option (List Field × Bytes) :=
  match found : splitLine bytes with
  | none => none
  | some ([], rest) => some ([], rest)
  | some (line, rest) =>
    have := splitLine_length found
    do
      let field ← readField? line
      let (fields, later) ← readFields? rest
      return (field :: fields, later)
termination_by bytes.length

/-- The words of a line. -/
def wordsOf (line : Bytes) : List String :=
  (Network.partsAt ' ' (Text.Utf8.decodeLossy line).toList).map String.ofList

/-- How long the body is that some fields announce. -/
def bodyLength (fields : List Field) : Nat :=
  ((fields.find? (·.name == "content-length")).bind fun field =>
    (Text.Utf8.decodeLossy field.value).toNat?).getD 0

/-- A request from a peer, and the bytes after it. -/
def readRequest? (peer : Network.Endpoint) (bytes : Bytes) : Option (Request × Bytes) := do
  let (line, rest) ← splitLine bytes
  match wordsOf line with
  | [method, target, _] =>
    let (fields, later) ← readFields? rest
    let length := bodyLength fields
    if length ≤ later.length then
      return (⟨method, target, fields, later.take length, some peer⟩, later.drop length)
    else
      none
  | _ => none

/-- The requests that some bytes hold one after the other. The bound counts requests. -/
def readRequestsWithin (peer : Network.Endpoint) : Nat → Bytes → List Request
  | 0, _ => []
  | bound + 1, bytes =>
    match readRequest? peer bytes with
    | some (request, rest) => request :: readRequestsWithin peer bound rest
    | none => []

/-- The requests that some bytes hold one after the other. -/
def readRequests (peer : Network.Endpoint) (bytes : Bytes) : List Request :=
  readRequestsWithin peer bytes.length bytes

/-- The words for a status. -/
def reasons : List (Nat × String) :=
  [(200, "OK"), (206, "Partial Content"), (304, "Not Modified"), (400, "Bad Request"),
    (404, "Not Found"), (405, "Method Not Allowed"), (412, "Precondition Failed"),
    (413, "Payload Too Large"), (415, "Unsupported Media Type"),
    (416, "Range Not Satisfiable"), (422, "Unprocessable Entity"),
    (429, "Too Many Requests"), (500, "Internal Server Error"),
    (503, "Service Unavailable")]

/-- The first line of a response. -/
def statusLine (response : Response) : String :=
  "HTTP/1.1 " ++ toString response.status ++ " " ++ (reasons.lookup response.status).getD ""

/-- A field as a line. -/
def writeField (field : Field) : Bytes :=
  Text.Utf8.encode (field.name ++ ": ") ++ field.value ++ lineEnd

/-- A response as bytes. -/
def writeResponse (response : Response) : Bytes :=
  Text.Utf8.encode (statusLine response) ++ lineEnd ++ response.fields.flatMap writeField
    ++ lineEnd ++ response.body

end CompilePlayground.Http.Wire
