import CompilePlayground.Proofs.Json.Spellings
import CompilePlayground.Proofs.Service.Footprints
import CompilePlayground.Proofs.Service.Logging

namespace CompilePlayground

open Http

/-!
# The channel of the extension

A message of the browser's extension is answered as soon as it comes in, with the action judged by
its name alone. The words of an action to log are written to the log once, and nothing but such a
message writes under the extension's name.
-/

/-- A body that is posted for the extension as JSON, and is not too long to be read. -/
def Http.Request.IsMessage (request : Request) : Prop :=
  request.path = Route.extension.path ∧ request.method = "POST" ∧ request.announcesJson = true ∧
    request.body.length ≤ Request.bodyLimit

instance (request : Request) : Decidable request.IsMessage :=
  inferInstanceAs (Decidable (_ ∧ _))

/-- How a body is answered that was sent as a message. -/
structure Answers (body : Bytes) (response : Response) : Prop where
  done : ∀ message, ExtensionRequest.read body = .ok message →
    response.status = 200 ∧ ExtensionResponse.read response.body =
      .ok ⟨decide (message.action = "log"),
        if message.action = "log" then none else some ("Unknown action: " ++ message.action)⟩
  bare : ∀ message, ExtensionRequest.read body = .ok message → message.action = "log" →
    response.body = Text.Utf8.encode "\x7b\"success\":true\x7d"
  refused : ∀ fault, ExtensionRequest.read body = .error fault →
    400 ≤ response.status ∧ response.status < 500

/-- What a request makes the extension say in the log. -/
inductive Hears (request : Request) : List LogEvent → Prop where
  | words
      (message : ExtensionRequest)
      (event : LogEvent)
      (posted : request.IsMessage)
      (reads : ExtensionRequest.read request.body = .ok message)
      (asks : message.action = "log")
      (stands : Endpoint.Words message.argument event.message) :
      Hears request [event]
  | nothing
      (other : ¬∃ message, request.IsMessage ∧
        ExtensionRequest.read request.body = .ok message ∧ message.action = "log") :
      Hears request []

namespace Http.Request

variable {request : Request} {α : Type}

/-- The body of a message is read, whatever is read of it. -/
theorem jsonBody_of_isMessage
    (posted : request.IsMessage)
    (read : Bytes → Except Json.Fault α) :
    request.jsonBody read = (read request.body).mapError Rejection.ofFault := by
  obtain ⟨_, _, announced, short⟩ := posted
  unfold jsonBody wholeBody
  rw [announced, if_pos short]
  cases reads : read request.body <;>
    simp [reads, Except.mapError, bind, Except.bind, pure, Except.pure, throw, throwThe,
      MonadExceptOf.throw]

/-- A body that is posted for the extension but is no message is not read. -/
theorem jsonBody_of_not_isMessage
    (path : request.path = Route.extension.path)
    (method : request.method = "POST")
    (other : ¬request.IsMessage)
    (read : Bytes → Except Json.Fault α) :
    ∃ rejection, request.jsonBody read = .error rejection := by
  unfold jsonBody wholeBody
  cases announced : request.announcesJson with
  | false =>
      exact ⟨_, rfl⟩
  | true =>
      have long : ¬request.body.length ≤ bodyLimit := fun short =>
        other ⟨path, method, announced, short⟩
      simp only [long, if_false]
      exact ⟨_, rfl⟩

end Http.Request

namespace Endpoint

variable {request : Request}

/-- What is said of a message that was read. -/
theorem extension_of_ok
    {message : ExtensionRequest}
    (posted : request.IsMessage)
    (reads : ExtensionRequest.read request.body = .ok message) :
    extension request = ⟨.json 200 (respondTo message).1.write, [(respondTo message).2]⟩ := by
  unfold extension
  rw [Request.jsonBody_of_isMessage posted, reads]
  rfl

/-- What is said of a body that was read as no message. -/
theorem extension_of_error
    {fault : Json.Fault}
    (posted : request.IsMessage)
    (fails : ExtensionRequest.read request.body = .error fault) :
    extension request = .rejection (.ofFault fault) := by
  unfold extension
  rw [Request.jsonBody_of_isMessage posted, fails]
  rfl

theorem respondTo_response (message : ExtensionRequest) :
    (respondTo message).1 = ⟨decide (message.action = "log"),
      if message.action = "log" then none else some ("Unknown action: " ++ message.action)⟩ := by
  unfold respondTo logAction
  split
  next asks =>
    simp [asks]
  next other =>
    simp [other]

/-- A message is answered as its action asks, and no other body as if it were one. -/
theorem answers_extension (posted : request.IsMessage) :
    Answers request.body (Route.complete request (extension request).response) := by
  have post := posted.2.1
  have status (response : Response) :
      (Route.complete request response).status = response.status :=
    Route.status_complete_of_not_asking (by rw [post]; decide) response
  have body (response : Response) : (Route.complete request response).body = response.body := by
    apply Route.body_complete_of_method <;> rw [post] <;> decide
  refine ⟨?done, ?bare, ?refused⟩
  case done =>
    intro message reads
    rw [status, body, extension_of_ok posted reads]
    refine ⟨rfl, ?_⟩
    rw [← respondTo_response]
    exact ExtensionResponse.roundTrips.back (respondTo message).1 trivial
  case bare =>
    intro message reads asks
    have written : (respondTo message).1.write = "\x7b\"success\":true\x7d" := by
      rw [respondTo_response, decide_eq_true asks, if_pos asks, ← String.toList_inj]
      unfold ExtensionResponse.write ExtensionResponse.toJson Json.Value.write
      simp only [Json.Value.writeOnto, Json.writeMembers, String.toList_push,
        String.toList_append, Json.toList_writeString]
      decide
    rw [body, extension_of_ok posted reads, ← written]
    rfl
  case refused =>
    intro fault fails
    rw [status, extension_of_error posted fails]
    have within := Rejection.status_mem (.ofFault fault)
    change 400 ≤ (Rejection.ofFault fault).status ∧ (Rejection.ofFault fault).status < 500
    generalize (Rejection.ofFault fault).status = status at within
    simp only [List.mem_cons, List.not_mem_nil, or_false] at within
    omega

/-- What a request makes the extension say: nothing, unless it is a message. -/
def said (request : Request) : List LogEvent :=
  if request.IsMessage then (extension request).events.filter (·.origin = .extension) else []

theorem hears_said (request : Request) : Hears request (said request) := by
  unfold said
  split
  next posted =>
    cases reads : ExtensionRequest.read request.body with
    | error fault =>
        rw [extension_of_error posted reads]
        refine .nothing ?_
        rintro ⟨message, _, same, _⟩
        rw [reads] at same
        cases same
    | ok message =>
        rw [extension_of_ok posted reads]
        unfold respondTo
        split
        next asks =>
          exact .words message _ posted reads asks (words_logged reads)
        next other =>
          refine .nothing ?_
          rintro ⟨message, _, same, asks⟩
          rw [reads] at same
          cases same
          exact other asks
  next other =>
    exact .nothing fun ⟨_, posted, _⟩ => other posted

end Endpoint

namespace Service

variable {service next : Service} {request : Request} {exchange : Exchange}
  {added : List Submission} {requests : List Request} {occurrence : Occurrence}

/-! ## Coming in -/

/-- A message is answered when it comes in, and nothing else is done. -/
theorem receive_of_isMessage (posted : request.IsMessage) (service : Service) :
    service.receive request =
      service.ticketed.send service.fresh request (Endpoint.extension request) := by
  obtain ⟨path, method, _, _⟩ := posted
  have asks : Sharing.isAsking request = false := by
    simp [Sharing.isAsking, Sharing.askingMethod, method]
  have leads : Route.ofPath? request.path = some .extension := by
    rw [path]
    decide
  have takes : Route.extension.takes request.method = true := by
    rw [method]
    decide
  unfold receive receiveAs
  simp only [asks, leads, takes, Bool.false_eq_true, if_false, if_true]
  rfl

/-- What is logged of a page of links. -/
theorem origin_of_titles (request : Request) :
    ∀ event ∈ (Endpoint.titles request).events, event.origin ∈ [Origin.handlers, .failures] := by
  unfold Endpoint.titles
  split
  · nofun
  next page _ =>
    split
    next failure _ =>
      intro event member
      exact List.mem_cons_of_mem _ (origin_of_failure _ event member)
    next links _ =>
      intro event member
      obtain ⟨link, _, rfl⟩ := List.mem_map.1 member
      exact List.mem_cons_self

/-- A request that is no message does not write under the name of the extension. -/
theorem adds_receive (other : ¬request.IsMessage) :
    Adds [.handlers, .failures] service.events (service.receive request).events := by
  by_cases limited : request.IsLimited
  · rw [receive_of_isLimited limited]
    have source (service : Service) (ticket : Nat) :
        Adds [.handlers, .failures] service.events
          (service.receiveSource ticket request).events := by
      unfold receiveSource
      split
      · exact .of_concat List.mem_cons_self
      · exact .of_append_nil
    unfold receiveLimited
    split
    · exact source _ _
    · split
      · exact source _ _
      · exact .of_append_nil
  · unfold receive receiveAs
    split
    next =>
      exact .of_append_nil
    next asks =>
      split
      next =>
        exact .of_concat List.mem_cons_self
      next leads =>
        refine absurd ⟨Route.path_of_ofPath? leads, ?_⟩ limited
        simpa [Sharing.isAsking] using asks
      next route _ leads =>
        split
        next takes =>
          cases route with
          | compile =>
              exact absurd ⟨Route.path_of_ofPath? leads, by simpa [Sharing.isAsking] using asks⟩
                limited
          | page =>
              refine .of_append ?_
              unfold Endpoint.page
              split <;> exact List.forall_mem_nil _
          | icon =>
              exact .of_append_nil
          | version =>
              exact .of_eq rfl
          | titles =>
              exact .of_append (origin_of_titles request)
          | extension =>
              have method : request.method = "POST" := by
                simpa [Route.takes, Route.methods?] using takes
              obtain ⟨rejection, rejects⟩ := Http.Request.jsonBody_of_not_isMessage
                (Route.path_of_ofPath? leads) method other ExtensionRequest.read
              have answer : Endpoint.extension request = .rejection rejection := by
                unfold Endpoint.extension
                rw [rejects]
              unfold receiveOn
              rw [answer]
              exact .of_append_nil
        next =>
          exact .of_append_nil

/-- What the extension says in the log is what its messages make it say. -/
theorem heard_receive (service : Service) (request : Request) :
    (service.receive request).events.filter (·.origin = .extension) =
      service.events.filter (·.origin = .extension) ++ Endpoint.said request := by
  unfold Endpoint.said
  split
  next posted =>
    rw [receive_of_isMessage posted]
    exact List.filter_append _ _
  next other =>
    rw [(adds_receive other).filter_eq (by decide), List.append_nil]

/-! ## Going on -/

/-- A request that goes on is answered under its own ticket, or not yet. -/
theorem Advance.replies_cases (advance : Advance service exchange added next) :
    next.replies = service.replies ∨
      ∃ response, next.replies = service.replies ++ [⟨exchange.ticket, response⟩] := by
  cases advance with
  | answer answer | tell version machine answer asks =>
      exact .inr ⟨_, rfl⟩
  | _ =>
      exact .inl rfl

/-- A request that comes in is answered under the next ticket, or not yet. -/
theorem Receipt.replies_cases (receipt : Receipt service request next) :
    next.replies = service.replies ∨
      ∃ response, next.replies = service.replies ++ [⟨service.fresh, response⟩] := by
  cases receipt with
  | answered limit? answer spends refused told =>
      exact .inr ⟨_, rfl⟩
  | submits limit? passes | inquires inquires =>
      exact .inl rfl

/-- What has been sent under a ticket is not added to by what is sent under another. -/
theorem filter_replies_of_ne
    {ticket other : Nat}
    (apart : other ≠ ticket)
    (added : next.replies = service.replies ∨
      ∃ response, next.replies = service.replies ++ [⟨other, response⟩]) :
    next.replies.filter (·.ticket = ticket) = service.replies.filter (·.ticket = ticket) := by
  rcases added with same | ⟨response, same⟩
  · rw [same]
  · rw [same, List.filter_append, List.filter_cons_of_neg (by simpa using apart),
      List.filter_nil, List.append_nil]

/-- Of the requests that have come in, the messages have been answered, none of them waits, and the
extension has said what they make it say. -/
structure Served (requests : List Request) (service : Service) : Prop where
  sent : ∀ ticket request, requests[ticket]? = some request → request.IsMessage →
    service.replies.filter (·.ticket = ticket) =
      [⟨ticket, Route.complete request (Endpoint.extension request).response⟩]
  waits : ∀ exchange ∈ service.exchanges, ¬exchange.request.IsMessage
  said : service.events.filter (·.origin = .extension) = requests.flatMap Endpoint.said

namespace Served

/-- The books know the request of every ticket under which something waits or has been sent. -/
structure Known (requests : List Request) (service : Service) : Prop where
  fresh : service.fresh = requests.length
  waits : ∀ exchange ∈ service.exchanges, requests[exchange.ticket]? = some exchange.request
  sent : ∀ reply ∈ service.replies, reply.ticket < requests.length

/-- A request that goes on is no message. -/
theorem advance
    (served : Served requests service)
    (known : Known requests service)
    (waits : exchange ∈ service.exchanges)
    (advance : Advance service exchange added next)
    (adds : Adds [.failures, .worker, .compiler] service.events next.events) :
    Served requests next where
  sent ticket request here posted := by
    have apart : exchange.ticket ≠ ticket := by
      rintro rfl
      rw [known.waits exchange waits, Option.some.injEq] at here
      rw [← here] at posted
      exact served.waits exchange waits posted
    rw [filter_replies_of_ne apart advance.replies_cases]
    exact served.sent ticket request here posted
  waits other waiting := by
    by_cases own : other.ticket = exchange.ticket
    · obtain ⟨⟨before, listed, _, same⟩, _⟩ := advance.errand_of_mem own waiting
      rw [← same]
      exact served.waits before listed
    · exact served.waits other (advance.mem_of_ne own waiting)
  said := by
    rw [adds.filter_eq (by decide)]
    exact served.said

/-- A message that comes in is answered at once. -/
theorem receive
    (served : Served requests service)
    (known : Known requests service)
    (request : Request) :
    Served (requests ++ [request]) (service.receive request) where
  sent ticket other here posted := by
    have receipt := receipt_receive service request
    rcases Nat.lt_trichotomy ticket requests.length with earlier | own | later
    · rw [List.getElem?_append_left earlier] at here
      rw [filter_replies_of_ne (by rw [known.fresh]; exact Nat.ne_of_gt earlier)
        receipt.replies_cases]
      exact served.sent ticket other here posted
    · subst own
      rw [List.getElem?_concat_length, Option.some.injEq] at here
      subst here
      have unsent : service.replies.filter (·.ticket = requests.length) = [] := by
        rw [List.filter_eq_nil_iff]
        intro reply listed own
        exact absurd (of_decide_eq_true own) (Nat.ne_of_lt (known.sent reply listed))
      have replies : (service.receive request).replies = service.replies ++
          [⟨service.fresh, Route.complete request (Endpoint.extension request).response⟩] := by
        rw [receive_of_isMessage posted]
        rfl
      rw [replies, known.fresh, List.filter_append, unsent]
      simp
    · rw [List.getElem?_eq_none (by rw [List.length_append]; exact later)] at here
      cases here
  waits exchange waiting := by
    rcases (receipt_receive service request).errand_of_mem waiting with
      before | ⟨_, same, ⟨passes, _⟩ | ⟨inquires, _⟩⟩
    · exact served.waits exchange before
    · rw [same]
      intro posted
      have path := passes.1.isLimited.1
      rw [posted.1] at path
      exact absurd path (by decide)
    · rw [same]
      intro posted
      have path := inquires.1
      rw [posted.1] at path
      exact absurd path (by decide)
  said := by
    rw [heard_receive, served.said, List.flatMap_append, List.flatMap_singleton]

/-- Whatever happens, messages are answered when they come in and nothing else is said. -/
theorem step
    (served : Served requests service)
    (known : Known requests service)
    (made : service.occur? occurrence = some next) :
    Served (requests ++ occurrence.request?.toList) next := by
  cases comes : occurrence.request? with
  | some request =>
      have receives : occurrence = .move (.receive request) := by
        unfold Occurrence.request? at comes
        split at comes <;> cases comes
        rfl
      subst receives
      simp only [occur?, step?, Option.ite_none_right_eq_some, Option.some.injEq] at made
      rw [← made.2]
      exact served.receive known request
  | none =>
      rw [Option.toList_none, List.append_nil]
      have adds := adds_occur? comes made
      cases named : occurrence.ticket? with
      | some ticket =>
          obtain ⟨exchange, waits, _, _, advance⟩ := advance_of_occur? named made
          exact served.advance known waits advance adds
      | none =>
          have apart := apart_of_occur? named comes made
          refine ⟨?_, ?_, ?_⟩
          · rw [apart.replies]
            exact served.sent
          · rw [apart.exchanges]
            exact served.waits
          · rw [adds.filter_eq (by decide)]
            exact served.said

end Served

/-- How the extension is served with the requests that have come in, in their order. -/
structure Channelled (requests : List Request) (service : Service) : Prop where
  /-- Every message is answered once. -/
  answered : ∀ ticket request, requests[ticket]? = some request → request.IsMessage →
    ∃ response, service.replies.filter (·.ticket = ticket) = [⟨ticket, response⟩] ∧
      Answers request.body response
  /-- What is logged under the name of the extension are the words of those that ask for it. -/
  logged : ∃ heard, List.Forall₂ Hears requests heard ∧
    service.events.filter (·.origin.target = "extension") = heard.flatten
  /-- A message is read in each of the forms in which it may be spelled. -/
  spelled : ∀ (message : ExtensionRequest) (value : Json.Value), message.Spells value →
    message.argument.Fits 126 → message.argument.IsWhole →
      ExtensionRequest.read (Text.Utf8.encode value.write) = .ok message

section Launched

variable
  {host : Posix.Host}
  {settings : CompilerSettings}
  {pageName : Bytes}
  {rate? : Option Nat}
  {workers : Nat}
  {names : Nat → String}
  {machine : Posix.Machine}
  {course : List Occurrence}

/-- Wherever a course from the launch of a service leads, the requests that came in are known. -/
theorem known_of_course
    (run : (launch host settings pageName rate? workers machine names).undergo? course =
      some service) :
    Served.Known (arrivals course) service := by
  have laws := kept_of_course run
  rw [← received_account run]
  refine ⟨laws.registered.fresh, laws.registered.known, ?_⟩
  intro reply sent
  obtain ⟨request, came, _⟩ := laws.replied reply sent
  exact (List.getElem?_eq_some_iff.1 came).1

/-- What is logged when a service is launched comes from the service and its workers. -/
theorem origin_of_launch :
    ∀ event ∈ (launch host settings pageName rate? workers machine names).events,
      event.origin = .service ∨ event.origin = .worker := by
  intro event member
  rcases List.mem_append.1 member with begins | rated
  · rcases List.mem_cons.1 begins with rfl | started
    · exact .inl rfl
    · obtain ⟨index, _, rfl⟩ := List.mem_map.1 started
      exact .inr rfl
  · left
    change event ∈ rateEvents rate? at rated
    unfold rateEvents at rated
    repeat' split at rated
    · cases rated
    · rw [List.mem_singleton.1 rated]
      rfl
    · cases rated

/-- Nothing has been served when a service is launched. -/
theorem served_launch : Served [] (launch host settings pageName rate? workers machine names) where
  sent ticket request here := by
    cases here
  waits exchange waiting := by
    cases waiting
  said := by
    rw [List.flatMap_nil, List.filter_eq_nil_iff]
    intro event member own
    rcases origin_of_launch event member with origin | origin <;>
      simp [origin] at own

/-- Wherever a course from the launch of a service leads, its messages have been served. -/
theorem served_of_course
    (run : (launch host settings pageName rate? workers machine names).undergo? course =
      some service) :
    Served (arrivals course) service := by
  refine undergo?_induction (motive := fun course service => Served (arrivals course) service)
    served_launch ?_ run
  intro course last occurrence next before served made
  rw [arrivals_append, arrivals_singleton]
  exact served.step (known_of_course before) made

/-- However requests come in and whatever happens around the service, every message of the extension
is answered once and as its action asks, and the words that it is to log are in the log once. -/
theorem channelled_of_course
    (run : (launch host settings pageName rate? workers machine names).undergo? course =
      some service) :
    Channelled (arrivals course) service := by
  have served := served_of_course run
  refine ⟨?_, ⟨(arrivals course).map Endpoint.said, ?_, ?_⟩, ?_⟩
  · intro ticket request here posted
    exact ⟨_, served.sent ticket request here posted, Endpoint.answers_extension posted⟩
  · rw [List.forall₂_map_right_iff]
    exact List.forall₂_same.2 fun request _ => Endpoint.hears_said request
  · have named (event : LogEvent) :
        decide (event.origin.target = "extension") = decide (event.origin = .extension) := by
      cases event.origin <;> decide
    simp only [named, ← List.flatMap_def]
    exact served.said
  · intro message value spells fits whole
    exact ExtensionRequest.read_of_spells spells fits whole

end Launched

namespace Sample

/-- A body that is posted for the extension under some media type. -/
def posted (mediaType body : String) : Request :=
  ⟨"POST", "/api/v1/extension", [.ofText "content-type" mediaType], Text.Utf8.encode body, none⟩

/-- Messages in different forms, one with an action that is not known, bodies that are read as none,
and one that is not announced as JSON. -/
def chatting : List Occurrence :=
  (["\x7b\"action\":\"log\",\"arg\":\"hi\"\x7d", "[\"log\",[1,[true,null]]]",
      "\x7b\"arg\":0,\"action\":\"Log\"\x7d", "\x7b\"action\":1\x7d", "\x7b",
      "[\"log\"]"].map fun body => .move (.receive (posted "application/json" body))) ++
    [.move (.receive (posted "text/plain" "[\"log\"]"))]

end Sample

/-- Three messages are heard, and all are answered. -/
theorem channelled_of_course_of_chatting :
    ∃ reached, Sample.service.undergo? Sample.chatting = some reached ∧
      (reached.replies.map (fun reply => (reply.ticket, reply.response.status)) =
          [(0, 200), (1, 200), (2, 200), (3, 422), (4, 400), (5, 200), (6, 415)] ∧
        (reached.events.filter (·.origin = .extension)).map LogEvent.message =
          ["hi", "[1,[true,null]]", "null"]) ∧
      Channelled (arrivals Sample.chatting) reached := by
  have made : (Sample.service.undergo? Sample.chatting).map (fun reached =>
      (reached.replies.map (fun reply => (reply.ticket, reply.response.status)),
        (reached.events.filter (·.origin = .extension)).map LogEvent.message)) =
      some ([(0, 200), (1, 200), (2, 200), (3, 422), (4, 400), (5, 200), (6, 415)],
        ["hi", "[1,[true,null]]", "null"]) := by
    decide +kernel
  obtain ⟨reached, run, told⟩ := Option.map_eq_some_iff.1 made
  exact ⟨reached, run, Prod.mk.inj told, channelled_of_course run⟩

end Service

end CompilePlayground
