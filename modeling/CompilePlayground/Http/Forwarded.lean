import CompilePlayground.Http.Message
import CompilePlayground.Text.Blank

namespace CompilePlayground.Http

open Network

/-!
# The client behind a request

Programs that pass requests on name the client in header fields: `x-forwarded-for` lists
addresses, `x-real-ip` is one, and `forwarded` holds elements with `for=` among their pairs.
The first address found in this order is the client's; without any it is the peer's.
-/

namespace Forwarded

/-- The first address in a list with commas. -/
def firstListed? (text : String) : Option Address :=
  (partsAt ',' text.toList).findSome? fun part => Address.read? (Text.trim part)

/-- What a pair of an element says of the node that a request came from. -/
inductive Node where
  | address (value : Address)
  | hidden
  deriving Repr, DecidableEq

/-- A text without some character at its ends. -/
def stripped (character : Char) (text : List Char) : List Char :=
  ((text.dropWhile (· = character)).reverse.dropWhile (· = character)).reverse

/-- The address in an endpoint, without a port or between brackets. -/
def nodeAddress? (text : List Char) : Option Address :=
  match Endpoint.read? text with
  | some endpoint => some endpoint.address
  | none =>
    match Address.read? text with
    | some address => some address
    | none =>
      match text, text.getLast? with
      | '[' :: rest, some ']' => Address.read? rest.dropLast
      | _, _ => none

/-- The node that a value names. A name that begins with an underscore hides the address. -/
def readNode? (value : List Char) : Option Node :=
  let text := stripped '\'' (stripped '"' (Text.trim value))
  if text = "unknown".toList then some .hidden
  else
    match nodeAddress? text with
    | some address => some (.address address)
    | none => if text.head? = some '_' then some .hidden else none

/-- What one pair adds to the node that is known so far. A pair that cannot be read makes the
whole field unreadable. -/
def readPair? (known : Option Node) (pair : List Char) : Option (Option Node) :=
  let text := Text.trim pair
  if text.isEmpty then some known
  else
    let name := text.takeWhile (· ≠ '=')
    match text.drop name.length with
    | [] => none
    | _ :: value =>
      match String.ofList (name.map Char.toLower) with
      | "for" => (readNode? value).map some
      | "by" => (readNode? value).map fun _ => known
      | "proto" => if value = "http".toList || value = "https".toList then some known else none
      | _ => some known

/-- The node that an element names, if the element can be read. -/
def readElement? (element : List Char) : Option (Option Node) :=
  (partsAt ';' element).foldlM readPair? none

/-- The nodes that the elements of a field name. -/
def readElements? (text : String) : Option (List (Option Node)) :=
  ((partsAt ',' text.toList).map Text.trim |>.filter (!·.isEmpty)).mapM readElement?

/-- The first address that the elements of a field name. -/
def firstNamed? (text : String) : Option Address :=
  ((readElements? text).getD []).findSome? fun node? =>
    match node? with
    | some (.address address) => some address
    | _ => none

end Forwarded

/-- The address of the client behind a request. -/
def Request.client? (request : Request) : Option Address :=
  let listed := (request.text? "x-forwarded-for").bind Forwarded.firstListed?
  let real := (request.text? "x-real-ip").bind fun text => Address.read? text.toList
  let named :=
    (request.fieldsOf "forwarded").findSome? fun field =>
      field.text?.bind Forwarded.firstNamed?
  let near := request.peer?.map Endpoint.address
  ((listed.orElse fun _ => real).orElse fun _ => named).orElse fun _ => near

end CompilePlayground.Http
