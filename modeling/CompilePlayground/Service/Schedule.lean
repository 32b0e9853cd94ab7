import CompilePlayground.Service.Turn

namespace CompilePlayground.Service

open Posix

/-!
# One way in which things happen

Of all that can happen the service does one thing after the other: it goes on with requests
and workers as long as it can, lets the processes run until all of them wait, and lets time
pass up to the next moment at which something can happen.
-/

/-- Go on with the first request or worker that anything can be done for. -/
def advance? (service : Service) : Option Service :=
  (service.exchanges.findSome? fun exchange => service.attend? exchange.ticket).orElse
    fun _ => (List.range service.seats.length).findSome? service.work?

/-- Go on until all wait for time to pass. The bound counts what is done. -/
def settleWithin : Nat → Service → Service
  | 0, service => service
  | bound + 1, service =>
    match service.advance? with
    | some next => settleWithin bound next
    | none =>
      let settled := service.withMachine service.machine.settle
      match settled.advance? with
      | some next => settleWithin bound next
      | none => settled

/-- Go on until all wait for time to pass. -/
def settle (service : Service) : Service :=
  settleWithin Machine.stepLimit service

/-- The next moment at which something can happen. -/
def nextMoment? (service : Service) : Option Nat :=
  (service.machine.nextWake?.toList ++ service.seats.filterMap Seat.deadline?).min?

/-- The service at a later moment. -/
def waitUntil (service : Service) (moment : Nat) : Service :=
  service.withMachine { service.machine with clock := max service.machine.clock moment }

/-- Go on until something has come about, but not beyond some moment. The bound counts the
moments at which something happens. -/
def runWithin
    (isDone : Service → Bool)
    (limit? : Option Nat) :
    Nat → Service → Service
  | 0, service => service
  | bound + 1, service =>
    let settled := service.settle
    if isDone settled then settled
    else
      match settled.nextMoment?, limit? with
      | some moment, some limit =>
        if limit < moment then settled.waitUntil limit
        else runWithin isDone limit? bound (settled.waitUntil moment)
      | some moment, none => runWithin isDone limit? bound (settled.waitUntil moment)
      | none, some limit => settled.waitUntil limit
      | none, none => settled

/-- Go on until something has come about. -/
def runUntil (service : Service) (isDone : Service → Bool) : Service :=
  runWithin isDone none Machine.stepLimit service

/-- Go on for some time, or until something has come about. -/
def runFor (service : Service) (span : Time.Span) (isDone : Service → Bool) : Service :=
  runWithin isDone (some (service.machine.clock + span.nanoseconds)) Machine.stepLimit service

/-- Take in some requests at once and go on until all of them are answered. The responses
come in the order of the requests. -/
def respondAll (service : Service) (requests : List Http.Request) :
    List (Option Http.Response) × Service :=
  let tickets := (List.range requests.length).map (service.fresh + ·)
  let received := requests.foldl receive service
  let done := received.runUntil fun s => tickets.all fun ticket => (s.reply? ticket).isSome
  (tickets.map done.reply?, done)

/-- Take in a request and go on until it is answered. -/
def respond (service : Service) (request : Http.Request) :
    Option Http.Response × Service :=
  let ticket := service.fresh
  let done := (service.receive request).runUntil fun s => (s.reply? ticket).isSome
  (done.reply? ticket, done)

/-- Take in a request of which the client goes away after some time, unless it is answered
before. -/
def respondWithin (service : Service) (request : Http.Request) (span : Time.Span) :
    Option Http.Response × Service :=
  let ticket := service.fresh
  let done := (service.receive request).runFor span fun s => (s.reply? ticket).isSome
  match done.reply? ticket with
  | some response => (some response, done)
  | none => (none, (done.leave? ticket).getD done)

/-- Take in no more requests and go on until all workers have stopped. -/
def shutDown (service : Service) : Service :=
  { service with isOpen := false }.runUntil fun s => !s.hasReceiver

end CompilePlayground.Service
