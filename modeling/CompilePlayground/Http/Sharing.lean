import CompilePlayground.Http.Message

namespace CompilePlayground.Http.Sharing

/-!
# Sharing with pages of other origins

Pages of every origin may use the service. Every response says so, and a request with the
method `OPTIONS`, by which a browser asks first, is answered with that alone.
-/

/-- The method by which a browser asks what it may send. -/
def askingMethod : String := "OPTIONS"

/-- Whether a request only asks what may be sent. -/
def isAsking (request : Request) : Bool :=
  request.method == askingMethod

/-- The field that lets pages of every origin read a response. -/
def originField : Field :=
  .ofText "access-control-allow-origin" "*"

/-- The field that names what a response may depend on. -/
def varyField : Field :=
  .ofText "vary" "origin, access-control-request-method, access-control-request-headers"

/-- The fields of every response. -/
def fields : List Field :=
  [originField, varyField, .ofText "access-control-expose-headers" "*"]

/-- The answer to who asks what may be sent: everything. -/
def permission : Response :=
  { Response.bare 200 with
    fields :=
      [originField, varyField, .ofText "access-control-allow-headers" "*",
        .ofText "access-control-allow-methods" "*"] }

/-- A response with leave to read it. -/
def share (response : Response) : Response :=
  response.withFields fields

/-- A shared response can be read by pages of every origin. -/
theorem originField_mem_share (response : Response) :
    originField ∈ (share response).fields :=
  (Response.mem_withFields ..).2 (Or.inr (by simp [fields]))

/-- The permission can be read by pages of every origin. -/
theorem originField_mem_permission : originField ∈ permission.fields := by
  simp [permission]

end CompilePlayground.Http.Sharing
