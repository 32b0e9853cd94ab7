import CompilePlayground.Service.Route

namespace CompilePlayground

/-!
# What reaches a client of a response

A response is sent with more fields than it was answered with, and not always with its body. Its
status stays what it was.
-/

namespace Http.Response

@[simp] theorem status_withFields (response : Response) (fields : List Field) :
    (response.withFields fields).status = response.status :=
  rfl

@[simp] theorem status_withoutBody (response : Response) :
    response.withoutBody.status = response.status :=
  rfl

@[simp] theorem status_withDefault (response : Response) (field : Field) :
    (response.withDefault field).status = response.status := by
  unfold withDefault
  split <;> rfl

end Http.Response

namespace Route

@[simp] theorem status_measure (method : String) (response : Http.Response) :
    (measure method response).status = response.status := by
  unfold measure
  split <;> simp

/-- Unless a client only asks what it may send, a response is sent with its status. -/
theorem status_complete_of_not_asking
    {request : Http.Request}
    (answers : request.method ≠ Http.Sharing.askingMethod)
    (response : Http.Response) :
    (complete request response).status = response.status := by
  have asks : Http.Sharing.isAsking request = false := by
    simpa [Http.Sharing.isAsking] using answers
  unfold complete
  simp only [asks, Bool.false_eq_true, if_false]
  cases (ofPath? request.path).bind (·.allowField? request.method) <;>
    split <;> simp [Http.Sharing.share]

/-- A response is sent with all of its body to a method that asks for it. -/
theorem body_complete_of_method
    {request : Http.Request}
    (answers : request.method ≠ Http.Sharing.askingMethod)
    (whole : request.method ≠ headMethod)
    (closed : request.method ≠ tunnelMethod)
    (response : Http.Response) :
    (complete request response).body = response.body := by
  have asks : Http.Sharing.isAsking request = false := by
    simpa [Http.Sharing.isAsking] using answers
  have head : (request.method == headMethod) = false := by
    simpa using whole
  have tunnel : (request.method == tunnelMethod) = false := by
    simpa using closed
  have default (response : Http.Response) (field : Http.Field) :
      (response.withDefault field).body = response.body := by
    unfold Http.Response.withDefault
    split <;> rfl
  unfold complete measure
  simp only [asks, head, tunnel, Bool.false_and, Bool.false_eq_true, if_false, default]
  split
  · exact default _ _
  · rfl

/-- What is answered to `GET` is sent with all of its body. -/
theorem body_complete_of_get
    {request : Http.Request}
    (method : request.method = "GET")
    (response : Http.Response) :
    (complete request response).body = response.body := by
  apply body_complete_of_method <;> rw [method] <;> decide

end Route

end CompilePlayground
