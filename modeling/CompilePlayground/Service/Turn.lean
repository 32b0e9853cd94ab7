import CompilePlayground.Service.Basic

namespace CompilePlayground.Service

open Posix

/-!
# Turns

Everything that happens in the service is a `Move`: a request comes in, something is done for
a request, a client goes away, a worker goes on, a process takes a step, time passes, or the
service is closed. `Service.step?` makes a move, if it can be made. What can happen is every
list of moves that can be made one after the other.
-/

/-- The job of a request, under the name that was drawn for its ticket. -/
def jobOf (names : Nat → String) (ticket : Nat) (request : Http.Request) : Job :=
  ⟨names ticket, request.body⟩

/-- What is logged when a job is sent to the queue. -/
def sendingEvent (job : Job) : LogEvent :=
  .plain .debug .handlers ("Sending new job " ++ job.id ++ " to work queue")

/-- Take in a request for a compilation that is let through. -/
def receiveSource (service : Service) (ticket : Nat) (request : Http.Request) : Service :=
  if Route.takes .compile request.method then
    let job := jobOf service.names ticket request
    (service.enlist ⟨ticket, request, .submit job⟩).log [sendingEvent job]
  else
    service.send ticket request (.bare 405)

/-- Take in a request for a compilation. -/
def receiveLimited (service : Service) (ticket : Nat) (request : Http.Request) : Service :=
  match service.limit? with
  | none => service.receiveSource ticket request
  | some limit =>
    match limit.decide service.machine.clock request with
    | .ok spent => { service with limit? := some spent }.receiveSource ticket request
    | .error refusal => service.send ticket request (.silent refusal.response)

/-- Take in a request on a route that has no limit. -/
def receiveOn (service : Service) (ticket : Nat) (request : Http.Request) : Route → Service
  | .page =>
    service.send ticket request
      (Endpoint.page service.host service.machine service.pageName request)
  | .compile => service.receiveLimited ticket request
  | .icon => service.send ticket request (.bare 200)
  | .version => service.enlist ⟨ticket, request, .inquire⟩
  | .titles => service.send ticket request (Endpoint.titles request)
  | .extension => service.send ticket request (Endpoint.extension request)

/-- Take in a request under a ticket. -/
def receiveAs (service : Service) (ticket : Nat) (request : Http.Request) : Service :=
  if Http.Sharing.isAsking request then service.send ticket request (.bare 200)
  else
    match Route.ofPath? request.path with
    | none => service.send ticket request (Endpoint.unknownPath request)
    | some .compile => service.receiveLimited ticket request
    | some route =>
      if route.takes request.method then service.receiveOn ticket request route
      else service.send ticket request (.bare 405)

/-- Take in a request under a ticket of its own. -/
def receive (service : Service) (request : Http.Request) : Service :=
  { service with fresh := service.fresh + 1 }.receiveAs service.fresh request

/-- Put a job into the queue, as long as anyone takes jobs off it. -/
def submit (service : Service) (exchange : Exchange) (job : Job) : Service :=
  if service.hasReceiver then
    { service with queue := service.queue ++ [Submission.mk exchange.ticket job] }.reassign
      exchange.ticket (.collect job)
  else
    service.send exchange.ticket exchange.request (.failure .queueClosed)

/-- Answer with what was delivered for a job, once it has been. -/
def collect? (service : Service) (exchange : Exchange) : Option Service :=
  (service.deliveries.lookup exchange.ticket).map fun delivery =>
    match delivery with
    | .report report =>
      service.send exchange.ticket exchange.request (.silent (.plain 200 report.render))
    | .nothing => service.send exchange.ticket exchange.request (.failure .workerDropped)

/-- Answer with the version. -/
def tell (service : Service) (exchange : Exchange) (version : String) : Service :=
  service.send exchange.ticket exchange.request (.silent (.json 200 (Version.body version)))

/-- Ask the compiler for its version, unless it is known or someone else is asking. -/
def inquire? (service : Service) (exchange : Exchange) : Option Service :=
  match service.version with
  | .known version => some (service.tell exchange version)
  | .sought _ => none
  | .unknown =>
    match Inquiry.start service.host service.settings.program service.machine with
    | .ok (inquiry, machine) =>
      some
        ({ service with version := .sought exchange.ticket, machine }.reassign exchange.ticket
          (.listen inquiry))
    | .error cause =>
      some
        (service.send exchange.ticket exchange.request (.failure (.version cause.message)))

/-- Keep the version that the compiler has told, or none. -/
def conclude
    (service : Service)
    (exchange : Exchange)
    (result : Except ServiceFailure String) :
    Service :=
  match result with
  | .ok version => { service with version := .known version }.tell exchange version
  | .error failure =>
    { service with version := .unknown }.send exchange.ticket exchange.request
      (.failure failure)

/-- Listen to the compiler that is being asked, until it has ended. -/
def listen? (service : Service) (exchange : Exchange) (inquiry : Inquiry) : Option Service :=
  match inquiry.listen? service.machine with
  | some (heard, machine) =>
    some ((service.withMachine machine).reassign exchange.ticket (.listen heard))
  | none =>
    (inquiry.ending? service.machine).map fun status =>
      (service.withMachine (service.machine.forget inquiry.process)).conclude exchange
        (inquiry.result service.settings.program status)

/-- Do what is next for the request under a ticket, if anything can be done. -/
def attend? (service : Service) (ticket : Nat) : Option Service :=
  match service.exchange? ticket with
  | none => none
  | some exchange =>
    match exchange.errand with
    | .submit job => some (service.submit exchange job)
    | .collect _ => service.collect? exchange
    | .inquire => service.inquire? exchange
    | .listen inquiry => service.listen? exchange inquiry

/-- Give up what is being done for a request. -/
def giveUp (service : Service) (exchange : Exchange) : Service :=
  match exchange.errand with
  | .listen inquiry =>
    { service with version := .unknown, machine := inquiry.abandon service.machine }
  | _ => service

/-- Let the client under a ticket go away. Its job goes on without it. -/
def leave? (service : Service) (ticket : Nat) : Option Service :=
  (service.exchange? ticket).map fun exchange =>
    (service.giveUp exchange).dismiss ticket

/-- Let a worker take the next job. -/
def take (service : Service) (index : Nat) (duty : Duty) (submission : Submission) : Service :=
  match duty with
  | .compile =>
    (service.occupy index
      (.busy submission.ticket (.begin service.settings submission.job))).log
        [Worker.received index submission.job]
  | .discard => service.deliver submission.ticket .nothing

/-- Let a worker stop. -/
def stop (service : Service) (index : Nat) (duty : Duty) : Service :=
  let stopped := service.occupy index .stopped
  match duty with
  | .compile => stopped.log [Worker.ended index]
  | .discard => stopped

/-- Let a worker hand over what has come of its job. -/
def finish
    (service : Service)
    (index ticket : Nat)
    (job : Job)
    (outcome : Outcome) :
    Service :=
  let isGone := (service.exchange? ticket).isNone
  ((service.occupy index .idle).deliver ticket (.report (Worker.report outcome))).log
    (Worker.afterwards index job outcome ++ [Worker.replied index job isGone])

/-- Let a worker go on with its job, if anything can be done. -/
def compile?
    (service : Service)
    (index ticket : Nat)
    (compilation : Compilation) :
    Option Service :=
  match compilation.outcome? with
  | some outcome => some (service.finish index ticket compilation.job outcome)
  | none =>
    (compilation.step service.host service.machine).map fun stepped =>
      ((service.withMachine stepped.machine).occupy index
        (.busy ticket stepped.compilation)).log stepped.events

/-- Let a worker go on, if anything can be done. -/
def work? (service : Service) (index : Nat) : Option Service :=
  match service.seats[index]? with
  | none => none
  | some seat =>
    match seat.occupation with
    | .stopped => none
    | .busy ticket compilation => service.compile? index ticket compilation
    | .idle =>
      match service.queue with
      | submission :: rest => some ({ service with queue := rest }.take index seat.duty submission)
      | [] => if service.hasSender then none else some (service.stop index seat.duty)

/-- Something that happens in the service. -/
inductive Move where
  | receive (request : Http.Request)
  | attend (ticket : Nat)
  | leave (ticket : Nat)
  | work (index : Nat)
  | run (process : Nat)
  | wait (moment : Nat)
  | close
  deriving Repr

/-- The service after a move, if the move can be made. -/
def step? (service : Service) : Move → Option Service
  | .receive request => if service.isOpen then some (service.receive request) else none
  | .attend ticket => service.attend? ticket
  | .leave ticket => service.leave? ticket
  | .work index => service.work? index
  | .run process => (service.machine.turn process).map service.withMachine
  | .wait moment =>
    some
      (service.withMachine
        { service.machine with clock := max service.machine.clock moment })
  | .close => if service.isOpen then some { service with isOpen := false } else none

/-- The service after some moves, if all of them can be made. -/
def steps? (service : Service) (moves : List Move) : Option Service :=
  moves.foldlM step? service

end CompilePlayground.Service
