import CompilePlayground.Proofs.Compilation.Apart
import CompilePlayground.Proofs.Compilation.Milestones
import CompilePlayground.Proofs.Service.Settling

namespace CompilePlayground

open Posix Text

/-!
# Everything that comes of a job is told in the response

A client whose job a worker has taken is answered with success and a plain text, whatever has
come of the job. Its first line tells whether the compiler ended well in time, and nothing that
the compiler writes can make it look otherwise. What could not be done for a job is told in the
text as well.
-/

namespace Report

variable {report other : Report}

theorem not_successBanner_isPrefix :
    ¬Utf8.encode successBanner <+: Utf8.encode failureBanner := by
  decide +kernel

theorem length_successBanner_le :
    (Utf8.encode successBanner).length ≤ (Utf8.encode failureBanner).length := by
  decide +kernel

theorem encode_render (report : Report) :
    Utf8.encode report.render = Utf8.encode report.banner ++ Utf8.encode report.output :=
  Utf8.encode_append _ _

/-- No text begins with both banners. -/
theorem banners_apart
    {bytes : Bytes}
    (success : Utf8.encode successBanner <+: bytes) :
    ¬Utf8.encode failureBanner <+: bytes := by
  intro failure
  exact not_successBanner_isPrefix
    (List.prefix_of_prefix_length_le success failure length_successBanner_le)

/-- Only what succeeded is told under the banner of success. -/
theorem successBanner_isPrefix_iff :
    Utf8.encode successBanner <+: Utf8.encode report.render ↔ report.succeeded = true := by
  rw [encode_render, banner]
  cases report.succeeded with
  | true =>
      simp
  | false =>
      refine iff_of_false ?_ Bool.false_ne_true
      intro success
      exact banners_apart success (List.prefix_append _ _)

theorem failureBanner_isPrefix_iff :
    Utf8.encode failureBanner <+: Utf8.encode report.render ↔ report.succeeded = false := by
  rw [encode_render, banner]
  cases report.succeeded with
  | true =>
      refine iff_of_false ?_ nofun
      exact banners_apart (List.prefix_append _ _)
  | false =>
      simp

/-- A text tells whose report it is, but for the reason of a failure. -/
theorem eq_of_render_eq (same : Utf8.encode report.render = Utf8.encode other.render) :
    report.succeeded = other.succeeded ∧ report.output = other.output := by
  have verdict : report.succeeded = other.succeeded := by
    rw [Bool.eq_iff_iff, ← successBanner_isPrefix_iff, same, successBanner_isPrefix_iff]
  have banner : report.banner = other.banner := by
    rw [Report.banner, Report.banner, verdict]
  rw [encode_render, encode_render, banner, List.append_cancel_left_eq] at same
  exact ⟨verdict, Utf8.encode_injective same⟩

end Report

namespace Route

/-- The only field of a sent text that tells its sort. -/
theorem sort_complete_plain
    {request : Http.Request}
    (source : request.IsSource)
    (status : Nat)
    (text : String) :
    (complete request (.plain status text)).fields.filter (·.name == sortName) =
      [.ofText "content-type" "text/plain; charset=utf-8"] := by
  rw [complete_of_isSource source]
  unfold Http.Response.withDefault
  split <;>
    simp [Http.Response.plain, Http.Response.ofText, Http.Sharing.share,
      Http.Response.withFields, sortName, Http.Sharing.fields, Http.Sharing.originField,
      Http.Sharing.varyField, Http.Field.ofText]

end Route

namespace Tale

variable {timeout : Time.Span} {milestones : List Milestone} {outcome other : Outcome}

/-- A tale has one outcome. -/
theorem unique
    (tale : Tale timeout milestones outcome)
    (also : Tale timeout milestones other) :
    outcome = other := by
  cases tale <;> cases also <;> rfl

end Tale

/-- The compiler was started and ended well in time, and its output could be read. -/
def Succeeds (milestones : List Milestone) : Prop :=
  ∃ process bytes, milestones = [.started process, .exited (.code 0), .read bytes]

/-- How the milestones of a job are told in a response. -/
structure Shown
    (timeout : Time.Span)
    (milestones : List Milestone)
    (response : Http.Response) :
    Prop where
  /-- The response is one of success. -/
  status : response.status = 200
  /-- Its body is a plain text. -/
  sort : response.fields.filter (·.name == Route.sortName) =
    [.ofText "content-type" "text/plain; charset=utf-8"]
  /-- The banner of success stands for success only. -/
  success : Utf8.encode Report.successBanner <+: response.body ↔ Succeeds milestones
  /-- The banner of failure stands for everything else. -/
  failure : Utf8.encode Report.failureBanner <+: response.body ↔ ¬Succeeds milestones
  /-- The text that a compiler has written that ended in time is told as it is. -/
  exact : ∀ process status text,
    milestones = [.started process, .exited status, .read (Utf8.encode text)] →
      response.body =
        Utf8.encode (if status = .code 0 then Report.successBanner else Report.failureBanner)
          ++ Utf8.encode text
  /-- What could not be done is told under the banner of failure. -/
  fatal : ∀ failure, .refused failure ∈ milestones →
    response.body =
      Utf8.encode (Report.failureBanner ++ "Fatal execution error: " ++ failure.message)
  /-- The milestones have an outcome, and the body is that of no other report. -/
  outcome : ∃ outcome, Tale timeout milestones outcome ∧
    response.body = Utf8.encode (Worker.report outcome).render ∧
    ∀ other : Report, response.body = Utf8.encode other.render →
      other.succeeded = (Worker.report outcome).succeeded ∧
        other.output = (Worker.report outcome).output

/-- A report that is sent to a source shows the milestones that have led to it. -/
theorem Tale.shown
    {timeout : Time.Span}
    {milestones : List Milestone}
    {outcome : Outcome}
    {request : Http.Request}
    (tale : Tale timeout milestones outcome)
    (source : request.IsSource) :
    Shown timeout milestones
      (Route.complete request (.plain 200 (Worker.report outcome).render)) := by
  have body : (Route.complete request (.plain 200 (Worker.report outcome).render)).body =
      Utf8.encode (Worker.report outcome).render :=
    Route.body_complete source _
  constructor
  case status =>
    exact Route.status_complete source _
  case sort =>
    exact Route.sort_complete_plain source _ _
  case success =>
    rw [body, Report.successBanner_isPrefix_iff]
    exact tale.succeeded_iff
  case failure =>
    rw [body, Report.failureBanner_isPrefix_iff, ← Bool.not_eq_true, tale.succeeded_iff]
    rfl
  case exact =>
    rintro process status text rfl
    have banner : (Worker.report outcome).banner =
        if status = .code 0 then Report.successBanner else Report.failureBanner := by
      have verdict : (Worker.report outcome).succeeded = true ↔ status = .code 0 := by
        rw [tale.succeeded_iff]
        simp
      by_cases well : status = .code 0
      · rw [Report.banner, if_pos (verdict.2 well), if_pos well]
      · rw [Report.banner, if_neg (mt verdict.1 well), if_neg well]
    rw [body, Report.encode_render, banner, tale.output_of_ended, Utf8.decodeLossy_encode]
  case fatal =>
    intro failure refused
    have failed := tale.outcome_of_refused refused
    rw [body, failed]
    rfl
  case outcome =>
    refine ⟨outcome, tale, body, ?_⟩
    intro other same
    exact Report.eq_of_render_eq (same.symm.trans body)

/-- The milestones of a job that was put into the queue. -/
def Deeds.milestones
    (deeds : Deeds)
    (host : Host)
    (settings : CompilerSettings)
    (submission : Submission) :
    List Milestone :=
  Compilation.milestones host (.begin settings submission.job)
    (deeds.machinesFor submission.ticket)

namespace Service

/-- What becomes of the requests whose jobs workers have taken. -/
structure InBand
    (host : Host)
    (settings : CompilerSettings)
    (service : Service)
    (deeds : Deeds) :
    Prop where
  /-- The answer shows what has come of the job. -/
  answered : ∀ reply ∈ service.replies, ∀ index submission, (index, submission) ∈ deeds.taken →
    submission.ticket = reply.ticket →
      Shown settings.timeout (deeds.milestones host settings submission) reply.response
  /-- Answers that are alike are about jobs of which the same has come. -/
  apart : ∀ first ∈ service.replies, ∀ second ∈ service.replies,
    ∀ one ∈ deeds.taken, ∀ two ∈ deeds.taken,
      one.2.ticket = first.ticket → two.2.ticket = second.ticket →
        first.response.body = second.response.body →
          ∀ was is : Outcome, Tale settings.timeout (deeds.milestones host settings one.2) was →
            Tale settings.timeout (deeds.milestones host settings two.2) is →
              (Worker.report was).succeeded = (Worker.report is).succeeded ∧
                (Worker.report was).output = (Worker.report is).output
  /-- Who has not been answered yet is answered once the worker and the request have had their
  turns. -/
  goesOn : ∀ index submission, (index, submission) ∈ deeds.taken →
    ∀ exchange ∈ service.exchanges, exchange.ticket = submission.ticket →
      ∃ moves later response,
        (∀ move ∈ moves, move = .attend submission.ticket ∨ move = .work index ∨
          ∃ moment, move = .wait moment) ∧
        service.steps? moves = some later ∧
        ⟨submission.ticket, response⟩ ∈ later.replies

end Service

namespace Books

theorem Kept.inBand
    {deeds : Deeds}
    {service : Service}
    (laws : Kept deeds service.books)
    (settled : Settled deeds service.books) :
    Service.InBand service.host service.settings service deeds := by
  have answered : ∀ reply ∈ service.replies, ∀ index submission,
      (index, submission) ∈ deeds.taken → submission.ticket = reply.ticket →
        Shown service.settings.timeout
          (deeds.milestones service.host service.settings submission) reply.response := by
    intro reply sent index submission taken own
    have enqueued := laws.queued.enqueued_of_taken taken
    obtain ⟨request, known, source, _⟩ := laws.queued.known submission enqueued
    rw [own] at known
    obtain ⟨worker, finishedJob, outcome, finished, same, told⟩ :=
      settled.reported reply sent submission enqueued own request known
    have done := laws.worked.finished _ (Deeds.mem_finished.2 ⟨outcome, finished⟩)
    -- There is one job only under the ticket.
    have one : finishedJob = submission :=
      congrArg Prod.snd (laws.queued.taken_unique done taken (same.trans own.symm))
    subst one
    obtain ⟨current, followed, ended⟩ := laws.worked.ended _ _ _ finished
    rw [told]
    exact (Compilation.tale_of_follow followed ended).shown source
  constructor
  case answered =>
    exact answered
  case apart =>
    intro first firstSent second secondSent one oneTaken two twoTaken firstOwn secondOwn same
      was is wasTale isTale
    obtain ⟨outcome, tale, body, only⟩ :=
      (answered first firstSent one.1 one.2 oneTaken firstOwn).outcome
    obtain ⟨other, otherTale, otherBody, _⟩ :=
      (answered second secondSent two.1 two.2 twoTaken secondOwn).outcome
    cases wasTale.unique tale
    cases isTale.unique otherTale
    obtain ⟨verdict, output⟩ := only _ (same.trans otherBody)
    exact ⟨verdict.symm, output.symm⟩
  case goesOn =>
    intro index submission taken exchange waiting own
    exact Service.exists_answer laws taken waiting own

end Books

namespace Service

section Launched

variable
  {host : Host}
  {settings : CompilerSettings}
  {pageName : Bytes}
  {rate? : Option Nat}
  {workers : Nat}
  {names : Nat → String}
  {machine : Machine}
  {course : List Occurrence}
  {service : Service}

theorem settled_of_course
    (run : (launch host settings pageName rate? workers machine names).undergo? course =
      some service) :
    Books.Settled ((launch host settings pageName rate? workers machine names).account course)
      service.books := by
  refine undergo?_induction
    (motive := fun course service =>
      Books.Settled ((launch host settings pageName rate? workers machine names).account course)
        service.books) ?_ ?_ run
  · constructor
    case gone =>
      intro reply sent
      cases sent
    case reported =>
      intro reply sent
      cases sent
  · intro course last occurrence next before law made
    rw [account_snoc before made]
    exact law.entry (kept_of_course before) (entry_of_occur? made)

/-- Whatever comes of a job that a worker has taken, its client is told in a response of
success. -/
theorem inBand_of_course
    (run : (launch host settings pageName rate? workers machine names).undergo? course =
      some service) :
    InBand host settings service
      ((launch host settings pageName rate? workers machine names).account course) := by
  obtain ⟨sameHost, sameSettings⟩ := settings_of_course run
  have told := (kept_of_course run).inBand (settled_of_course run)
  rwa [sameHost, sameSettings] at told

end Launched

namespace Sample

/-- A machine on which no directory can be made to work in. -/
def unready : Machine :=
  let device : File := { content := .void, mode := 0o666, modified := 0 }
  Machine.ofDisk (Disk.empty.addFile [[119]] device).2

/-- Two clients send a source each, and a worker compiles the first. -/
def first : List Move :=
  [.receive (request [97]), .receive (request [98]), .attend 0, .attend 1]
    ++ compiling 0 1002 ++ [.attend 0]

/-- Before the second source is compiled, the directory to work in has gone. -/
def mixed : List Occurrence :=
  first.map .move ++ [.change unready, .move (.work 1), .move (.work 1), .move (.work 1),
    .move (.attend 1)]

end Sample

/-- A course on which one job succeeds and one cannot be begun, which is told alike. -/
theorem inBand_of_course_of_mixed :
    ∃ reached, Sample.service.undergo? Sample.mixed = some reached ∧
      reached.replies.map (fun reply => (reply.ticket, reply.response.status)) =
        [(0, 200), (1, 200)] ∧
      InBand Sample.host Sample.settings reached (Sample.service.account Sample.mixed) := by
  have made : (Sample.service.undergo? Sample.mixed).map (fun reached =>
      reached.replies.map fun reply => (reply.ticket, reply.response.status)) =
        some [(0, 200), (1, 200)] := by
    decide +kernel
  obtain ⟨reached, run, replies⟩ := Option.map_eq_some_iff.1 made
  exact ⟨reached, run, replies, inBand_of_course run⟩

end Service

end CompilePlayground
