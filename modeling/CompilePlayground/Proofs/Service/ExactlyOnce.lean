import CompilePlayground.Proofs.Service.Delivering
import CompilePlayground.Proofs.Service.JobNames
import Mathlib.Data.Set.Operations

namespace CompilePlayground

open Posix

/-!
# Every job once, and to its own client

Whatever requests come in, however many workers there are and in whatever order all of them go
on, a job that was put into the queue goes to one worker, is compiled in one pass and is handed
over once; and a client that is answered with a report reads what came of its own source.
-/

namespace Route

/-- What a source is answered with may be read by all, and tells its length. -/
theorem complete_of_isSource
    {request : Http.Request}
    (source : request.IsSource)
    (response : Http.Response) :
    complete request response =
      (Http.Sharing.share response).withDefault
        (.ofText "content-length" (toString response.body.length)) := by
  have asks : Http.Sharing.isAsking request = false := by
    simp [Http.Sharing.isAsking, Http.Sharing.askingMethod, source.2]
  have allowed : ((ofPath? request.path).bind fun route =>
      route.allowField? request.method) = none := by
    rw [source.route, Option.bind_some, allowField?]
    rw [if_pos ((takes_compile_iff _).2 source.2)]
  have head : (request.method == headMethod) = false := by
    simp [source.2, headMethod]
  have tunnel : (request.method == tunnelMethod) = false := by
    simp [source.2, tunnelMethod]
  simp only [complete, asks, allowed, head, measure, tunnel, Bool.false_and,
    Bool.false_eq_true, if_false]
  rfl

/-- What a source is answered with is sent with its status. -/
theorem status_complete
    {request : Http.Request}
    (source : request.IsSource)
    (response : Http.Response) :
    (complete request response).status = response.status := by
  rw [complete_of_isSource source]
  unfold Http.Response.withDefault
  split <;> rfl

/-- What a source is answered with is sent with all of its body. -/
theorem body_complete
    {request : Http.Request}
    (source : request.IsSource)
    (response : Http.Response) :
    (complete request response).body = response.body := by
  rw [complete_of_isSource source]
  unfold Http.Response.withDefault
  split <;> rfl

end Route

namespace Refusal

theorem status_ne_ok (refusal : Refusal) : refusal.response.status ≠ 200 := by
  cases refusal <;> decide

end Refusal

namespace Worker

/-- What a worker hands over for what compiling a job has come to: the report, or a report of the
step that could not be done. -/
inductive Hands : Outcome → Report → Prop where
  | report (report : Report) : Hands (.ok report) report
  | failure (failure : CompileFailure) :
      Hands (.error failure) ⟨.failed none, "Fatal execution error: " ++ failure.message⟩

/-- What the client reads of what compiling its source has come to. -/
inductive Reads : Outcome → Bytes → Prop where
  | succeeded (output : String) :
      Reads (.ok ⟨.succeeded, output⟩)
        (Text.Utf8.encode ("Compilation succeeded.\n\n" ++ output))
  | failed (exitCode? : Option Int) (output : String) :
      Reads (.ok ⟨.failed exitCode?, output⟩)
        (Text.Utf8.encode ("Compilation failed with the following errors:\n\n" ++ output))
  | timedOut (output : String) :
      Reads (.ok ⟨.timedOut, output⟩)
        (Text.Utf8.encode ("Compilation failed with the following errors:\n\n" ++ output))
  | failure (failure : CompileFailure) :
      Reads (.error failure)
        (Text.Utf8.encode ("Compilation failed with the following errors:\n\n"
          ++ "Fatal execution error: " ++ failure.message))

/-- A worker hands over what has come of the job. -/
theorem hands_report (outcome : Outcome) : Hands outcome (report outcome) := by
  cases outcome with
  | ok told => exact .report told
  | error failure => exact .failure failure

/-- A client reads what has come of its job. -/
theorem reads_render (outcome : Outcome) :
    Reads outcome (Text.Utf8.encode (report outcome).render) := by
  cases outcome with
  | ok told =>
      obtain ⟨verdict, output⟩ := told
      cases verdict with
      | succeeded => exact .succeeded output
      | failed exitCode? => exact .failed exitCode? output
      | timedOut => exact .timedOut output
  | error failure =>
      have text : (report (.error failure)).render =
          "Compilation failed with the following errors:\n\n"
            ++ "Fatal execution error: " ++ failure.message :=
        (String.append_assoc ..).symm
      rw [text]
      exact .failure failure

end Worker

namespace Deeds

/-- The tickets of the requests for a compilation that came in. -/
def sources (deeds : Deeds) : Set Nat :=
  {ticket | ∃ request, deeds.received[ticket]? = some request ∧ request.IsSource}

/-- What compiling a job has come to, in one pass over the machines that were found for it. -/
def Compiled
    (deeds : Deeds)
    (host : Host)
    (settings : CompilerSettings)
    (submission : Submission)
    (outcome : Outcome) :
    Prop :=
  ∃ compilation,
    (Compilation.begin settings submission.job).follow host
      (deeds.machinesFor submission.ticket) = some compilation ∧
    compilation.outcome? = some outcome

end Deeds

namespace Books

variable {deeds more : Deeds} {books next : Books}

/-- No entry changes the host, the settings or the names that were drawn. -/
theorem entry_settings (entry : Entry books more next) :
    next.host = books.host ∧ next.settings = books.settings ∧ next.names = books.names := by
  cases entry with
  | discard index submission rest idle first =>
      obtain ⟨_, shape⟩ := deliver_eq { books with queue := rest } submission.ticket .nothing
      rw [shape]
      exact ⟨rfl, rfl, rfl⟩
  | finish index ticket duty compilation outcome busy ended =>
      obtain ⟨_, shape⟩ := deliver_eq (books.occupy index .idle) ticket
        (.report (Worker.report outcome))
      rw [shape]
      exact ⟨rfl, rfl, rfl⟩
  | _ =>
      exact ⟨rfl, rfl, rfl⟩

/-- A job in the queue is that of a source, and has the name that was drawn for its ticket. -/
theorem Queued.id_eq
    (law : Queued deeds books)
    {submission : Submission}
    (enqueued : submission ∈ deeds.enqueued) :
    submission.ticket ∈ deeds.sources ∧
      submission.job.id = books.names submission.ticket := by
  obtain ⟨request, known, source, own⟩ := law.known submission enqueued
  refine ⟨⟨request, known, source⟩, ?_⟩
  rw [own]
  rfl

/-- Two jobs that were put into the queue share a name only if they share their ticket. -/
theorem Queued.ticket_eq
    (law : Queued deeds books)
    (distinct : Set.InjOn books.names deeds.sources)
    {first second : Submission}
    (firstQueued : first ∈ deeds.enqueued)
    (secondQueued : second ∈ deeds.enqueued)
    (same : first.job.id = second.job.id) :
    first.ticket = second.ticket := by
  obtain ⟨firstSource, firstName⟩ := law.id_eq firstQueued
  obtain ⟨secondSource, secondName⟩ := law.id_eq secondQueued
  rw [firstName, secondName] at same
  exact distinct firstSource secondSource same

/-- Jobs that were put into the queue and have tickets of their own have names of their own. -/
theorem Queued.ids_nodup
    {α : Type}
    (law : Queued deeds books)
    (distinct : Set.InjOn books.names deeds.sources)
    (submission : α → Submission)
    {entries : List α}
    (enqueued : ∀ entry ∈ entries, submission entry ∈ deeds.enqueued)
    (apart : (entries.map fun entry => (submission entry).ticket).Nodup) :
    (entries.map fun entry => (submission entry).job.id).Nodup := by
  have names :
      entries.map (fun entry => (submission entry).job.id) =
        (entries.map fun entry => (submission entry).ticket).map books.names := by
    rw [List.map_map]
    apply List.map_congr_left
    intro entry listed
    exact (law.id_eq (enqueued entry listed)).2
  rw [names]
  refine List.Nodup.map_on ?_ apart
  intro first firstListed second secondListed same
  obtain ⟨entry, listed, rfl⟩ := List.mem_map.1 firstListed
  obtain ⟨other, alsoListed, rfl⟩ := List.mem_map.1 secondListed
  exact distinct (law.id_eq (enqueued entry listed)).1
    (law.id_eq (enqueued other alsoListed)).1 same

/-- Nobody is at a job once all workers have stopped. -/
theorem not_holds_of_deserted
    (deserted : books.hasReceiver = false)
    (index : Nat)
    (submission : Submission) :
    ¬books.Holds index submission := by
  rintro ⟨duty, compilation, found, _⟩
  unfold hasReceiver at deserted
  rw [List.any_eq_false] at deserted
  exact deserted _ (List.mem_of_getElem? found) rfl

/-- Nothing is left in the queue once all workers have stopped. -/
theorem Staffed.queue_eq_nil
    (law : Staffed books)
    (deserted : books.hasReceiver = false) :
    books.queue = [] := by
  cases someone : books.hasSender with
  | true =>
      rw [law.hasReceiver someone] at deserted
      cases deserted
  | false =>
      obtain ⟨seat, listed⟩ := List.exists_mem_of_ne_nil _ law.some
      unfold Books.hasReceiver at deserted
      rw [List.any_eq_false] at deserted
      obtain ⟨duty, occupation⟩ := seat
      have gone := deserted _ listed
      cases occupation with
      | idle | busy =>
          exact absurd rfl gone
      | stopped =>
          exact (law.stopped _ listed rfl).2

/-- What was done for a job that was taken is one pass from its beginning. -/
theorem Worked.follows_of_taken
    (law : Worked deeds books)
    {entry : Nat × Submission}
    (taken : entry ∈ deeds.taken) :
    ∃ compilation, (Compilation.begin books.settings entry.2.job).follow books.host
      (deeds.machinesFor entry.2.ticket) = some compilation := by
  rcases law.placed entry.1 entry.2 taken with ⟨duty, compilation, found, own⟩ | done
  · rw [← own]
    exact ⟨compilation, law.followed _ _ _ _ found⟩
  · obtain ⟨outcome, finished⟩ := Deeds.mem_finished.1 done
    obtain ⟨compilation, followed, _⟩ := law.ended _ _ _ finished
    exact ⟨compilation, followed⟩

/-- No job in the queue shares its name with one that was taken. -/
theorem Queued.ne_of_queued
    (law : Queued deeds books)
    (distinct : Set.InjOn books.names deeds.sources)
    {submission : Submission}
    {entry : Nat × Submission}
    (queued : submission ∈ books.queue)
    (taken : entry ∈ deeds.taken) :
    entry.2.job.id ≠ submission.job.id := by
  intro same
  have enqueued : submission ∈ deeds.enqueued := by
    rw [law.order]
    exact List.mem_append_right _ queued
  exact law.ne_of_taken taken queued
    (law.ticket_eq distinct (law.enqueued_of_taken taken) enqueued same)

/-- A job that a worker holds is in the hands of no other worker, and not handed over yet. -/
theorem Kept.alone_of_holds
    (laws : Kept deeds books)
    (distinct : Set.InjOn books.names deeds.sources)
    {index : Nat}
    {submission : Submission}
    (held : books.Holds index submission) :
    (∀ other otherSubmission, books.Holds other otherSubmission →
      otherSubmission.job.id = submission.job.id → other = index) ∧
    ∀ entry ∈ deeds.finished, entry.2.job.id ≠ submission.job.id := by
  obtain ⟨taken, unfinished⟩ := laws.worked.held index submission held
  have enqueued := laws.queued.enqueued_of_taken taken
  constructor
  · intro other otherSubmission otherHeld same
    have otherTaken := (laws.worked.held other otherSubmission otherHeld).1
    have one := laws.queued.taken_unique otherTaken taken
      (laws.queued.ticket_eq distinct (laws.queued.enqueued_of_taken otherTaken) enqueued same)
    exact congrArg Prod.fst one
  · intro entry done same
    have entryTaken := laws.worked.finished entry done
    exact unfinished entry done
      (laws.queued.ticket_eq distinct (laws.queued.enqueued_of_taken entryTaken) enqueued same)

/-- A job that was taken is that of the source that came in under its ticket. -/
theorem Queued.job_eq
    (law : Queued deeds books)
    {entry : Nat × Submission}
    (taken : entry ∈ deeds.taken)
    {request : Http.Request}
    (known : deeds.received[entry.2.ticket]? = some request) :
    entry.2.job = ⟨books.names entry.2.ticket, request.body⟩ := by
  obtain ⟨asked, alsoKnown, _, own⟩ := law.known _ (law.enqueued_of_taken taken)
  rw [known, Option.some.injEq] at alsoKnown
  subst alsoKnown
  exact own

/-- Once all workers have stopped, the jobs that they are done with are those that were put
into the queue. -/
theorem Kept.finished_perm
    (laws : Kept deeds books)
    (deserted : books.hasReceiver = false) :
    (deeds.finished.map Prod.snd).Perm deeds.enqueued := by
  have allTaken : deeds.enqueued = deeds.taken.map Prod.snd := by
    rw [laws.queued.order, laws.staffed.queue_eq_nil deserted, List.append_nil]
  have ended : deeds.finished.Perm deeds.taken := by
    have finishedOnce : deeds.finished.Nodup := laws.worked.once.of_map _
    have takenOnce : deeds.taken.Nodup := laws.queued.taken_nodup.of_map _
    rw [List.perm_ext_iff_of_nodup finishedOnce takenOnce]
    intro entry
    constructor
    · exact laws.worked.finished entry
    · intro taken
      rcases laws.worked.placed entry.1 entry.2 taken with held | done
      · exact absurd held (not_holds_of_deserted deserted _ _)
      · exact done
  rw [allTaken]
  exact ended.map _

end Books

namespace Service

/-- Every job that was put into the queue is compiled once, for its own client. -/
structure ExactlyOnce
    (host : Host)
    (settings : CompilerSettings)
    (names : Nat → String)
    (service : Service)
    (deeds : Deeds) :
    Prop where
  /-- No job is put into the queue twice. -/
  enqueuedOnce : (deeds.enqueued.map fun submission => submission.job.id).Nodup
  /-- No job is taken off the queue twice, whoever takes it. -/
  takenOnce : (deeds.taken.map fun entry => entry.2.job.id).Nodup
  /-- Only what was put into the queue is taken off it. -/
  takenFromQueue : ∀ entry ∈ deeds.taken, entry.2 ∈ deeds.enqueued
  /-- Only the worker that took a job does anything for it. -/
  steppedByTaker : ∀ index submission machine,
    Deed.compile index submission machine ∈ deeds → (index, submission) ∈ deeds.taken
  /-- All that is done for a job is one pass from its beginning. -/
  onePass : ∀ entry ∈ deeds.taken, ∃ compilation,
    (Compilation.begin settings entry.2.job).follow host
      (deeds.machinesFor entry.2.ticket) = some compilation
  /-- What has come of a job is handed over at most once. -/
  handedOnce : (deeds.finished.map fun entry => entry.2.job.id).Nodup
  /-- Only the worker that took a job hands it over. -/
  handedByTaker : ∀ entry ∈ deeds.finished, entry ∈ deeds.taken
  /-- What is handed over is what compiling the job has come to. -/
  compiled : ∀ index submission outcome, Deed.finish index submission outcome ∈ deeds →
    deeds.Compiled host settings submission outcome
  /-- A job that is in the queue has never been taken off it. -/
  queuedUntaken : ∀ submission ∈ service.queue, ∀ entry ∈ deeds.taken,
    entry.2.job.id ≠ submission.job.id
  /-- A job that a worker holds is in the hands of no other worker, nor in the queue, nor handed
  over yet. -/
  heldAlone : ∀ index submission, service.books.Holds index submission →
    (∀ other held, service.books.Holds other held → held.job.id = submission.job.id →
      other = index) ∧
    (∀ queued ∈ service.queue, queued.job.id ≠ submission.job.id) ∧
    ∀ entry ∈ deeds.finished, entry.2.job.id ≠ submission.job.id
  /-- At most one delivery is laid out for a client. -/
  deliveredOnce : (service.deliveries.map Prod.fst).Nodup
  /-- What is laid out for a client is what was handed over for its ticket. -/
  delivered : ∀ entry ∈ service.deliveries, ∃ index submission outcome report,
    Deed.finish index submission outcome ∈ deeds ∧ submission.ticket = entry.1 ∧
      Worker.Hands outcome report ∧ entry.2 = .report report
  /-- A client whose source is answered with success reads what came of that source. -/
  answered : ∀ reply ∈ service.replies, ∃ request,
    deeds.received[reply.ticket]? = some request ∧
      (request.IsSource → reply.response.status = 200 → ∃ index outcome,
        Deed.finish index ⟨reply.ticket, ⟨names reply.ticket, request.body⟩⟩ outcome ∈ deeds ∧
        deeds.Compiled host settings ⟨reply.ticket, ⟨names reply.ticket, request.body⟩⟩
          outcome ∧
        Worker.Reads outcome reply.response.body)
  /-- Once all workers have stopped, every job has been compiled and handed over, whether its
  client waited or not. -/
  drained : service.hasReceiver = false →
    (deeds.finished.map Prod.snd).Perm deeds.enqueued

end Service

namespace Books

/-- The laws make sure that every job is compiled once. -/
theorem Kept.exactlyOnce
    {host : Host}
    {settings : CompilerSettings}
    {names : Nat → String}
    {deeds : Deeds}
    {service : Service}
    (laws : Kept deeds service.books)
    (sameHost : service.host = host)
    (sameSettings : service.settings = settings)
    (sameNames : service.names = names)
    (distinct : Set.InjOn names deeds.sources) :
    Service.ExactlyOnce host settings names service deeds := by
  subst sameHost sameSettings sameNames
  have fromQueue (entry : Nat × Submission) (taken : entry ∈ deeds.taken) :
      entry.2 ∈ deeds.enqueued :=
    laws.queued.enqueued_of_taken taken
  constructor
  case enqueuedOnce =>
    exact laws.queued.ids_nodup distinct id (fun _ listed => listed) laws.queued.distinct
  case takenOnce =>
    exact laws.queued.ids_nodup distinct Prod.snd fromQueue laws.queued.taken_nodup
  case takenFromQueue =>
    exact fromQueue
  case steppedByTaker =>
    exact laws.worked.begun
  case onePass =>
    exact fun _ taken => laws.worked.follows_of_taken taken
  case handedOnce =>
    exact laws.queued.ids_nodup distinct Prod.snd
      (fun entry done => fromQueue entry (laws.worked.finished entry done)) laws.worked.once
  case handedByTaker =>
    exact laws.worked.finished
  case compiled =>
    exact laws.worked.ended
  case queuedUntaken =>
    exact fun _ queued _ taken => laws.queued.ne_of_queued distinct queued taken
  case heldAlone =>
    intro index submission held
    have taken := (laws.worked.held index submission held).1
    obtain ⟨alone, unfinished⟩ := laws.alone_of_holds distinct held
    exact ⟨alone, fun _ queued => (laws.queued.ne_of_queued distinct queued taken).symm, unfinished⟩
  case deliveredOnce =>
    exact laws.delivered.distinct
  case delivered =>
    intro entry laid
    obtain ⟨index, submission, outcome, finished, own, handed⟩ := laws.delivered.reports entry laid
    exact ⟨index, submission, outcome, _, finished, own, Worker.hands_report outcome, handed⟩
  case answered =>
    intro reply sent
    obtain ⟨request, known, answered⟩ := laws.replied reply sent
    refine ⟨request, known, ?_⟩
    intro source allWell
    cases answered source with
    | report index submission outcome finished own rendered =>
        obtain ⟨ticket, job⟩ := submission
        cases own
        have taken := laws.worked.finished _ (Deeds.mem_finished.2 ⟨outcome, finished⟩)
        have sameJob : job = ⟨service.names reply.ticket, request.body⟩ :=
          laws.queued.job_eq taken known
        subst sameJob
        refine ⟨index, outcome, finished, laws.worked.ended _ _ _ finished, ?_⟩
        rw [rendered, Route.body_complete source]
        exact Worker.reads_render outcome
    | refusal refusal refused =>
        rw [refused, Route.status_complete source] at allWell
        exact absurd allWell refusal.status_ne_ok
  case drained =>
    exact laws.finished_perm

end Books

namespace Service

section Runs

variable
  {host : Host}
  {settings : CompilerSettings}
  {pageName : Bytes}
  {rate? : Option Nat}
  {workers : Nat}
  {names : Nat → String}
  {machine : Machine}
  {moves : List Move}
  {service : Service}

/-- No move changes the host, the settings or the names that were drawn. -/
theorem step?_settings
    {next : Service}
    {move : Move}
    (made : service.step? move = some next) :
    next.host = service.host ∧ next.settings = service.settings ∧
      next.names = service.names :=
  Books.entry_settings (entry_of_step? made)

/-- No run changes the host, the settings or the names that were drawn. -/
theorem steps?_settings
    {reached : Service}
    (run : service.steps? moves = some reached) :
    reached.host = service.host ∧ reached.settings = service.settings ∧
      reached.names = service.names := by
  induction moves generalizing service with
  | nil =>
      cases run
      exact ⟨rfl, rfl, rfl⟩
  | cons move rest inductionHypothesis =>
      unfold steps? at run
      rw [List.foldlM_cons, Option.bind_eq_bind, Option.bind_eq_some_iff] at run
      obtain ⟨next, made, onward⟩ := run
      obtain ⟨nextHost, nextSettings, nextNames⟩ := step?_settings made
      obtain ⟨lastHost, lastSettings, lastNames⟩ := inductionHypothesis onward
      exact ⟨lastHost.trans nextHost, lastSettings.trans nextSettings, lastNames.trans nextNames⟩

/-- All laws hold wherever a run from the launch of a service leads. -/
theorem kept_of_run
    (run : (launch host settings pageName rate? workers machine names).steps? moves =
      some service) :
    Books.Kept ((launch host settings pageName rate? workers machine names).history moves)
      service.books := by
  simpa using kept_steps? (kept_launch host settings pageName rate? workers machine names) run

/-- Whatever happens, every job that was put into the queue is compiled once, for its own
client, as long as no two jobs are given one name. -/
theorem exactlyOnce_of_run
    (distinct : Set.InjOn names
      ((launch host settings pageName rate? workers machine names).history moves).sources)
    (run : (launch host settings pageName rate? workers machine names).steps? moves =
      some service) :
    ExactlyOnce host settings names service
      ((launch host settings pageName rate? workers machine names).history moves) := by
  obtain ⟨sameHost, sameSettings, sameNames⟩ := steps?_settings run
  exact (kept_of_run run).exactlyOnce sameHost sameSettings sameNames distinct

end Runs

namespace Sample

/-- A host that starts from the root and has no variables. -/
def host : Host :=
  ⟨[], []⟩

/-- A compiler, a directory to work in, and the device that gives nothing. -/
def machineOf (compiler : Program) : Machine :=
  let bare := [[[119]], [[100, 101, 118]]].foldl Disk.addDirectory Disk.empty
  let device : File := { content := .void, mode := 0o666, modified := 0 }
  let installed : File := { content := .program fun _ => compiler, mode := 0o755, modified := 0 }
  let equipped := (bare.addFile [[100, 101, 118], [110, 117, 108, 108]] device).2
  Machine.ofDisk (equipped.addFile [[99]] installed).2

/-- A compiler that is always satisfied. -/
def machine : Machine :=
  machineOf (.exit 0)

/-- The compiler, one second for it, and the directory to work in. -/
def settings : CompilerSettings :=
  ⟨"/c", [], [47, 119], .ofSeconds 1⟩

/-- A service with two workers. -/
def service : Service :=
  launch host settings [] none 2 machine

/-- A request for a compilation. -/
def request (source : Bytes) : Http.Request :=
  ⟨"POST", "/compile", [], source, none⟩

/-- All that a worker does for a job, while its compiler runs as the process with a number. -/
def compiling (index process : Nat) : List Move :=
  [.work index, .work index, .work index, .work index, .work index, .run process, .work index,
    .work index, .work index, .work index]

/-- All that a worker does for a job whose compiler is not there. -/
def missing (index : Nat) : List Move :=
  [.work index, .work index, .work index, .work index, .work index, .work index, .work index]

/-- A compiler that says something and removes itself. -/
def fleeting : Program :=
  .call (.write 1 (Text.Utf8.encode "well done")) fun _ =>
    .call (.removeFile [47, 99]) fun _ => .exit 0

/-- A service with two workers, and a compiler that compiles once. -/
def brief : Service :=
  launch host settings [] none 2 (machineOf fleeting) jobName

/-- Three clients send a source each, one of them goes away, both workers take a job and one takes
two, and the service is closed. The compiler is there for the first job only. -/
def moves : List Move :=
  [.receive (request [97]), .receive (request [98]), .receive (request [99]), .attend 0,
    .attend 1, .attend 2, .leave 1, .work 1, .work 1, .work 1, .work 1, .work 1, .run 1002,
    .run 1002, .run 1002, .work 1, .work 1, .work 1, .work 1, .attend 0]
    ++ missing 0 ++ missing 1 ++ [.attend 2, .close, .work 0, .work 1]

end Sample

/-- A run with a client that goes away, in which all jobs are compiled and all workers stop. One
client reads what the compiler says, one reads why it could not be started. -/
theorem exactlyOnce_of_run_of_two :
    ∃ reached, Sample.brief.steps? Sample.moves = some reached ∧
      reached.hasReceiver = false ∧
      reached.replies.map (fun reply => (reply.ticket, reply.response.status,
        reply.response.body)) =
          [(0, 200, Text.Utf8.encode "Compilation succeeded.\n\nwell done"),
            (2, 200, Text.Utf8.encode ("Compilation failed with the following errors:\n\n"
              ++ "Fatal execution error: Failed to spawn compilation process: "
              ++ "No such file or directory (os error 2)"))] ∧
      ExactlyOnce Sample.host Sample.settings jobName reached
        (Sample.brief.history Sample.moves) := by
  have made : (Sample.brief.steps? Sample.moves).map (fun reached =>
      (reached.hasReceiver, reached.replies.map fun reply => (reply.ticket, reply.response.status,
        reply.response.body))) =
          some (false, [(0, 200, Text.Utf8.encode "Compilation succeeded.\n\nwell done"),
            (2, 200, Text.Utf8.encode ("Compilation failed with the following errors:\n\n"
              ++ "Fatal execution error: Failed to spawn compilation process: "
              ++ "No such file or directory (os error 2)"))]) := by
    decide +kernel
  obtain ⟨reached, run, told⟩ := Option.map_eq_some_iff.1 made
  obtain ⟨deserted, replies⟩ := Prod.mk.inj told
  exact ⟨reached, run, deserted, replies,
    exactlyOnce_of_run (fun _ _ _ _ same => jobName_injective same) run⟩

end Service

end CompilePlayground
