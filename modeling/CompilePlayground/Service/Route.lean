import CompilePlayground.Http.Sharing

namespace CompilePlayground

open Http

/-!
# Routes

A route is a path that the service knows, spelled exactly as it is here, and the methods that
it takes. `Route.complete` makes the response that is sent out of what was answered.
-/

/-- What the service can be asked for. -/
inductive Route where
  | page
  | compile
  | icon
  | version
  | titles
  | extension
  deriving Repr, DecidableEq

namespace Route

/-- All routes. -/
def all : List Route :=
  [.page, .compile, .icon, .version, .titles, .extension]

/-- The path of a route. -/
def path : Route → String
  | .page => "/"
  | .compile => "/compile"
  | .icon => "/favicon.ico"
  | .version => "/api/v1/version"
  | .titles => "/api/v1/category/titles"
  | .extension => "/api/v1/extension"

/-- The route that a path leads to. -/
def ofPath? (path : String) : Option Route :=
  all.find? fun route => route.path == path

/-- The methods that a route takes, if it does not take all of them. -/
def methods? : Route → Option (List String)
  | .page => some ["GET", "HEAD"]
  | .compile => some ["POST"]
  | .icon => none
  | .version => some ["GET", "HEAD"]
  | .titles => some ["POST"]
  | .extension => some ["POST"]

/-- Whether a route takes a method. -/
def takes (route : Route) (method : String) : Bool :=
  match route.methods? with
  | some methods => methods.contains method
  | none => true

/-- The field that names the methods of a route to who used another one. -/
def allowField? (route : Route) (method : String) : Option Field :=
  if route.takes method then none
  else (route.methods?).map fun methods => .ofText "allow" (",".intercalate methods)

/-- The method by which a client asks for all of a response but its body. -/
def headMethod : String := "HEAD"

/-- The method that turns a connection into a tunnel. -/
def tunnelMethod : String := "CONNECT"

/-- A response that tells the length of its body. One that opens a tunnel has none. -/
def measure (method : String) (response : Response) : Response :=
  if method == tunnelMethod && 200 ≤ response.status && response.status < 300 then
    response.withoutBody
  else
    response.withDefault (.ofText "content-length" (toString response.body.length))

/-- The response that is sent out of what was answered. -/
def complete (request : Request) (response : Response) : Response :=
  let shared :=
    if Sharing.isAsking request then Sharing.permission else Sharing.share response
  let allowed :=
    match (ofPath? request.path).bind (·.allowField? request.method) with
    | some field => shared.withDefault field
    | none => shared
  let measured := measure request.method allowed
  if request.method == headMethod then measured.withoutBody else measured

/-- Every response can be read by pages of every origin. -/
theorem originField_mem_complete (request : Request) (response : Response) :
    Sharing.originField ∈ (complete request response).fields := by
  have shared :
      Sharing.originField ∈
        (if Sharing.isAsking request then Sharing.permission
          else Sharing.share response).fields := by
    split
    · exact Sharing.originField_mem_permission
    · exact Sharing.originField_mem_share response
  unfold complete
  simp only
  generalize (if Sharing.isAsking request then Sharing.permission
    else Sharing.share response) = base at shared
  have allowed :
      Sharing.originField ∈
        (match (ofPath? request.path).bind (·.allowField? request.method) with
          | some field => base.withDefault field
          | none => base).fields := by
    split
    · exact Response.mem_withDefault_of_mem _ _ shared
    · exact shared
  generalize (match (ofPath? request.path).bind (·.allowField? request.method) with
    | some field => base.withDefault field
    | none => base) = next at allowed
  have measured : Sharing.originField ∈ (measure request.method next).fields := by
    unfold measure
    split
    · exact allowed
    · exact Response.mem_withDefault_of_mem _ _ allowed
  split <;> exact measured

end Route

end CompilePlayground
