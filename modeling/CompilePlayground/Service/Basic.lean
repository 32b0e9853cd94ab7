import CompilePlayground.Service.Endpoint
import CompilePlayground.Service.RateLimit
import CompilePlayground.Service.Route
import CompilePlayground.Service.Version
import CompilePlayground.Worker

namespace CompilePlayground

open Posix

/-!
# The service and all that goes on in it

A `Service` holds what requests and workers share: the queue of jobs, the reports that have
come back, what is known of the compiler's version, the limit on how often a client may ask,
and the machine. Every request has a ticket of its own; an `Exchange` is a request that has
not been answered yet, and a `Seat` is the place of a worker.
-/

/-- A job on its way through the queue. Its client waits under the ticket. -/
structure Submission where
  ticket : Nat
  job : Job
  deriving Repr, DecidableEq

/-- What a client gets for its job. -/
inductive Delivery where
  | report (report : Report)
  | nothing
  deriving Repr, DecidableEq

/-- What a worker does with the jobs that it takes. -/
inductive Duty where
  | compile
  | discard
  deriving Repr, DecidableEq

/-- What a worker is at. -/
inductive Occupation where
  | idle
  | busy (ticket : Nat) (compilation : Compilation)
  | stopped
  deriving Repr

/-- The place of a worker. -/
structure Seat where
  duty : Duty
  occupation : Occupation
  deriving Repr

/-- What is still to be done for a request. -/
inductive Errand where
  | submit (job : Job)
  | collect (job : Job)
  | inquire
  | listen (inquiry : Inquiry)
  deriving Repr, DecidableEq

/-- A request that has not been answered yet. -/
structure Exchange where
  ticket : Nat
  request : Http.Request
  errand : Errand
  deriving Repr, DecidableEq

/-- A response that has been sent. -/
structure Reply where
  ticket : Nat
  response : Http.Response
  deriving Repr, DecidableEq

/-- Who holds a handle on the queue, through which jobs are put into it: the router, and each
request that waits, which was given a copy of the router's. -/
inductive Holder where
  | router
  | request (ticket : Nat)
  deriving Repr, DecidableEq

/-- The whole state of the service. What a job is called that is sent under a ticket was drawn
beforehand. -/
structure Service where
  host : Host
  settings : CompilerSettings
  pageName : Bytes
  isOpen : Bool
  limit? : Option RateLimit
  queue : List Submission
  seats : List Seat
  deliveries : List (Nat × Delivery)
  version : VersionCell
  exchanges : List Exchange
  replies : List Reply
  fresh : Nat
  names : Nat → String
  machine : Machine
  events : List LogEvent

namespace Seat

/-- The place of a worker that has nothing to do yet. -/
def ofDuty (duty : Duty) : Seat :=
  { duty, occupation := .idle }

/-- Whether a worker still takes jobs. -/
def isManned (seat : Seat) : Bool :=
  match seat.occupation with
  | .stopped => false
  | _ => true

/-- Whether a worker is at a job. -/
def isBusy (seat : Seat) : Bool :=
  match seat.occupation with
  | .busy _ _ => true
  | _ => false

/-- When the compiler has to be done that a worker waits for. -/
def deadline? (seat : Seat) : Option Nat :=
  match seat.occupation with
  | .busy _ compilation => compilation.deadline?
  | _ => none

end Seat

namespace Service

/-- What is said when workers begin. -/
def spawnEvent (count : Nat) : LogEvent :=
  .plain .info .service ("Spawning " ++ toString count ++ " compile workers...")

/-- What is said of a rate that allows for no limit. -/
def invalidRateEvent (perSecond : Nat) : LogEvent :=
  .plain .warn .service
    ("Invalid rate limit " ++ toString perSecond ++ "/s, /compile is not rate limited")

/-- The limit that a rate asks for. A rate of zero asks for none. -/
def limitOf? (rate? : Option Nat) : Option RateLimit :=
  (rate?.bind Quota.ofRate?).map RateLimit.ofQuota

/-- What is said of a rate. -/
def rateEvents (rate? : Option Nat) : List LogEvent :=
  match rate?.filter (0 < ·) with
  | some rate => if (Quota.ofRate? rate).isSome then [] else [invalidRateEvent rate]
  | none => []

/-- The text of a number in hexadecimal, with at least some count of digits. -/
def hexadecimal (width number : Nat) : String :=
  let digits := Nat.toDigits 16 number
  String.ofList (List.replicate (width - digits.length) '0' ++ digits)

/-- The name of the job of a ticket, where no other names were drawn. -/
def jobName (ticket : Nat) : String :=
  "00000000-0000-4000-8000-" ++ hexadecimal 12 ticket

/-- A service that no request has come to. -/
def assemble
    (host : Host)
    (settings : CompilerSettings)
    (pageName : Bytes)
    (rate? : Option Nat)
    (duties : List Duty)
    (machine : Machine)
    (names : Nat → String := jobName) :
    Service :=
  { host, settings, pageName,
    isOpen := true,
    limit? := limitOf? rate?,
    queue := [],
    seats := duties.map Seat.ofDuty,
    deliveries := [],
    version := .unknown,
    exchanges := [],
    replies := [],
    fresh := 0,
    names,
    machine,
    events := rateEvents rate? }

/-- How many workers there are when some number of them is asked for. -/
def workerCount (workers : Nat) : Nat :=
  max 1 workers

/-- A service with workers that compile. -/
def launch
    (host : Host)
    (settings : CompilerSettings)
    (pageName : Bytes)
    (rate? : Option Nat)
    (workers : Nat)
    (machine : Machine)
    (names : Nat → String := jobName) :
    Service :=
  let count := workerCount workers
  let service :=
    assemble host settings pageName rate? (List.replicate count .compile) machine names
  { service with
    events :=
      spawnEvent count :: (List.range count).map Worker.started ++ service.events }

/-- The request that waits under a ticket. -/
def exchange? (service : Service) (ticket : Nat) : Option Exchange :=
  service.exchanges.find? (·.ticket = ticket)

/-- What was sent under a ticket. -/
def reply? (service : Service) (ticket : Nat) : Option Http.Response :=
  (service.replies.find? (·.ticket = ticket)).map Reply.response

/-- Whether anyone takes jobs off the queue. -/
def hasReceiver (service : Service) : Bool :=
  service.seats.any Seat.isManned

/-- Those who hold a handle on the queue: the router as long as requests may come in, and the
requests that wait. -/
def holders (service : Service) : List Holder :=
  (if service.isOpen then [.router] else [])
    ++ service.exchanges.map fun exchange => .request exchange.ticket

/-- Whether anyone may still put jobs into the queue. -/
def hasSender (service : Service) : Bool :=
  !service.holders.isEmpty

/-- A service at which more has happened. -/
def log (service : Service) (events : List LogEvent) : Service :=
  { service with events := service.events ++ events }

/-- A service with another machine. -/
def withMachine (service : Service) (machine : Machine) : Service :=
  { service with machine }

/-- A service with one more request that waits. -/
def enlist (service : Service) (exchange : Exchange) : Service :=
  { service with exchanges := service.exchanges ++ [exchange] }

/-- Change what is to be done for a request. -/
def reassign (service : Service) (ticket : Nat) (errand : Errand) : Service :=
  { service with
    exchanges := service.exchanges.map fun exchange =>
      if exchange.ticket = ticket then { exchange with errand } else exchange }

/-- Let a request go, with what was delivered for it. -/
def dismiss (service : Service) (ticket : Nat) : Service :=
  { service with
    exchanges := service.exchanges.filter (·.ticket != ticket),
    deliveries := service.deliveries.filter (·.1 != ticket) }

/-- Answer a request. -/
def send
    (service : Service)
    (ticket : Nat)
    (request : Http.Request)
    (answer : Endpoint.Answer) :
    Service :=
  let dismissed := service.dismiss ticket
  { dismissed with
    replies :=
      dismissed.replies ++ [⟨ticket, Route.complete request answer.response⟩],
    events := dismissed.events ++ answer.events }

/-- Change what a worker is at. -/
def occupy (service : Service) (index : Nat) (occupation : Occupation) : Service :=
  { service with
    seats := service.seats.modify index fun seat => { seat with occupation } }

/-- Hand over what has come of a job, unless its client is gone. -/
def deliver (service : Service) (ticket : Nat) (delivery : Delivery) : Service :=
  if (service.exchange? ticket).isSome then
    { service with deliveries := service.deliveries ++ [(ticket, delivery)] }
  else
    service

end Service

end CompilePlayground
