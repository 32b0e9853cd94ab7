import CompilePlayground.Proofs.Service.InTurn
import CompilePlayground.Proofs.Worker.Shift

namespace CompilePlayground

open Posix

/-!
# The workers of the service work in shifts

What a worker of the service does next is what it does on a shift of its own: it takes the next job
of the queue, brings it further, lays out what has come of it unless the client is gone, and stops.
The queue of a shift is closed from the beginning. A worker of the service waits instead of
stopping as long as someone holds a handle on the queue, and this is all there is between the two.
-/

/-- What a worker of the service is at, by itself. -/
def Occupation.activity (isGone : Nat → Bool) : Occupation → Worker.Activity
  | idle => .idle
  | busy ticket compilation => .busy ⟨compilation.job, isGone ticket⟩ compilation
  | stopped => .stopped

namespace Service

/-- Whether nobody waits under a ticket. -/
def isGone (service : Service) (ticket : Nat) : Bool :=
  (service.exchange? ticket).isNone

/-- A worker of the service, by itself. -/
def station (service : Service) (index : Nat) : Worker.Station :=
  ⟨service.host, service.settings, index⟩

/-- What a worker of the service is at is a shift, on which it has replied to some jobs. -/
def shiftAt
    (service : Service)
    (occupation : Occupation)
    (replies : List (Option Report)) :
    Worker.Shift :=
  ⟨service.queue.map fun submission => ⟨submission.job, service.isGone submission.ticket⟩,
    occupation.activity service.isGone, ⟨replies, service.machine, service.events⟩⟩

/-- What a worker replies when it goes on, and what is laid out for it: nothing, or the report on the
job that it is at, unless the client is gone. -/
inductive Lays (service : Service) :
    Occupation → List (Option Report) → List (Nat × Delivery) → Prop where
  | nothing (occupation : Occupation) :
      Lays service occupation [] []
  | lost (ticket : Nat) (compilation : Compilation) (gone : service.isGone ticket = true) :
      Lays service (.busy ticket compilation) [none] []
  | laid
      (ticket : Nat)
      (compilation : Compilation)
      (report : Report)
      (waits : service.isGone ticket = false) :
      Lays service (.busy ticket compilation) [some report] [(ticket, .report report)]

variable {service next : Service} {index : Nat} {occupation : Occupation}

/-- A worker is at what it has turned to. -/
theorem getElem?_occupy
    {duty : Duty}
    (seat : service.seats[index]? = some ⟨duty, occupation⟩)
    (turned : Occupation) :
    (service.occupy index turned).seats[index]? = some ⟨duty, turned⟩ := by
  unfold occupy
  rw [List.getElem?_modify_eq, seat]
  rfl

/-- What has come of a job is laid out, unless the client is gone, and the worker is idle. -/
theorem finish_eq
    (service : Service)
    (index ticket : Nat)
    (job : Job)
    (outcome : Outcome) :
    service.finish index ticket job outcome =
      { service.occupy index .idle with
        deliveries := service.deliveries ++
          if service.isGone ticket then [] else [(ticket, .report (Worker.report outcome))],
        events := service.events ++ (Worker.afterwards index job outcome
          ++ [Worker.replied index job (service.isGone ticket)]) } := by
  have same : (service.occupy index .idle).exchange? ticket = service.exchange? ticket :=
    rfl
  unfold finish deliver isGone
  rw [same]
  cases service.exchange? ticket with
  | none =>
      simp [log, occupy]
  | some exchange =>
      rfl

/-- A worker that goes on does what it does on a shift of its own. -/
theorem shift_of_work?
    (seat : service.seats[index]? = some ⟨.compile, occupation⟩)
    (made : service.work? index = some next)
    (replies : List (Option Report)) :
    ∃ after more laid,
      next.seats[index]? = some ⟨.compile, after⟩ ∧
      next.deliveries = service.deliveries ++ laid ∧
      service.Lays occupation more laid ∧
      (service.shiftAt occupation replies).work? (service.station index) =
        some (next.shiftAt after (replies ++ more)) := by
  simp only [work?, seat] at made
  cases occupation with
  | stopped =>
      cases made
  | idle =>
      cases queued : service.queue with
      | nil =>
          simp only [queued, Option.ite_none_left_eq_some, Option.some.injEq] at made
          obtain ⟨_, rfl⟩ := made
          refine ⟨.stopped, [], [], getElem?_occupy seat .stopped,
            (List.append_nil _).symm, .nothing _, ?_⟩
          simp [shiftAt, Worker.Shift.work?, Occupation.activity, queued, stop, occupy, log,
            Worker.Progress.log, station]
      | cons submission rest =>
          simp only [queued, Option.some.injEq] at made
          subst made
          refine ⟨.busy submission.ticket (.begin service.settings submission.job), [], [],
            getElem?_occupy seat _, (List.append_nil _).symm, .nothing _, ?_⟩
          simp only [shiftAt, Worker.Shift.work?, Occupation.activity, queued, take,
            List.map_cons, List.append_nil]
          rfl
  | busy ticket compilation =>
      simp only [compile?] at made
      cases ended : compilation.outcome? with
      | some outcome =>
          simp only [ended, Option.some.injEq] at made
          subst made
          rw [finish_eq]
          cases gone : service.isGone ticket with
          | true =>
              refine ⟨.idle, [none], [], getElem?_occupy seat .idle, rfl,
                .lost ticket compilation gone, ?_⟩
              simp only [shiftAt, Worker.Shift.work?, Occupation.activity, ended,
                Worker.Progress.answer, gone]
              rfl
          | false =>
              refine ⟨.idle, [some (Worker.report outcome)], _, getElem?_occupy seat .idle, rfl,
                .laid ticket compilation _ gone, ?_⟩
              simp only [shiftAt, Worker.Shift.work?, Occupation.activity, ended,
                Worker.Progress.answer, gone]
              rfl
      | none =>
          simp only [ended] at made
          obtain ⟨stepped, step, rfl⟩ := Option.map_eq_some_iff.1 made
          obtain ⟨stage, shape⟩ := Compilation.step_keeps step
          have job : stepped.compilation.job = compilation.job := by
            rw [shape]
            rfl
          have worked : compilation.step (service.station index).host service.machine =
              some stepped :=
            step
          refine ⟨.busy ticket stepped.compilation, [], [], getElem?_occupy seat _,
            (List.append_nil _).symm, .nothing _, ?_⟩
          simp only [shiftAt, Worker.Shift.work?, Occupation.activity, ended, worked,
            Option.map_some, List.append_nil, job]
          rfl

/-- A worker that cannot go on could not do so on a shift of its own, unless it waits for a queue
that is empty but not closed. -/
theorem work?_shift_eq_none
    (seat : service.seats[index]? = some ⟨.compile, occupation⟩)
    (stuck : service.work? index = none)
    (replies : List (Option Report)) :
    (service.shiftAt occupation replies).work? (service.station index) = none ∨
      occupation = .idle ∧ service.queue = [] ∧ service.hasSender = true := by
  simp only [work?, seat] at stuck
  cases occupation with
  | stopped =>
      exact .inl rfl
  | idle =>
      cases queued : service.queue with
      | nil =>
          simp only [queued] at stuck
          cases someone : service.hasSender with
          | true =>
              exact .inr ⟨rfl, rfl, rfl⟩
          | false =>
              rw [someone] at stuck
              cases stuck
      | cons submission rest =>
          simp only [queued] at stuck
          cases stuck
  | busy ticket compilation =>
      simp only [compile?] at stuck
      cases ended : compilation.outcome? with
      | some outcome =>
          simp only [ended] at stuck
          cases stuck
      | none =>
          simp only [ended, Option.map_eq_none_iff] at stuck
          have idle : compilation.step (service.station index).host service.machine = none :=
            stuck
          left
          simp only [shiftAt, Worker.Shift.work?, Occupation.activity, ended, idle,
            Option.map_none]

/-! ## A lone worker and a queue that is closed -/

/-- What a move is on the shift of a lone worker. -/
def turnOf : Move → Worker.Turn
  | .work _ => .work
  | .run process => .change fun machine => (machine.turn process).getD machine
  | .wait moment => .wait moment
  | _ => .change id

/-- Once the queue is closed, every move of the service is a turn on the shift of its lone worker. -/
theorem shift_of_step?
    {move : Move}
    (lone : service.seats = [⟨.compile, occupation⟩])
    (closed : service.hasSender = false)
    (made : service.step? move = some next)
    (replies : List (Option Report)) :
    ∃ after more, next.seats = [⟨.compile, after⟩] ∧
      (service.shiftAt occupation replies).turn? (service.station 0) (turnOf move) =
        some (next.shiftAt after (replies ++ more)) := by
  obtain ⟨shut, nobody⟩ := hasSender_eq_false_iff.1 closed
  have vacant (ticket : Nat) : service.exchange? ticket = none := by
    rw [exchange?, nobody]
    rfl
  cases move with
  | receive | close =>
      simp [step?, shut] at made
  | attend ticket =>
      simp [step?, attend?, vacant] at made
  | leave ticket =>
      simp [step?, leave?, vacant] at made
  | run process =>
      obtain ⟨machine, turned, rfl⟩ := Option.map_eq_some_iff.1 made
      refine ⟨occupation, [], lone, ?_⟩
      have effect : (service.machine.turn process).getD service.machine = machine := by
        rw [turned, Option.getD_some]
      simp only [turnOf, Worker.Shift.turn?, shiftAt, Worker.Progress.onMachine, effect,
        List.append_nil]
      rfl
  | wait moment =>
      cases made
      refine ⟨occupation, [], lone, ?_⟩
      rw [List.append_nil]
      rfl
  | work index =>
      have inside : index < service.seats.length := by
        refine Nat.lt_of_not_le fun beyond => ?_
        rw [step?, work?, List.getElem?_eq_none beyond] at made
        cases made
      rw [lone, List.length_singleton, Nat.lt_one_iff] at inside
      subst inside
      have seat : service.seats[0]? = some ⟨.compile, occupation⟩ := by
        rw [lone]
        rfl
      obtain ⟨after, more, _, now, _, _, works⟩ := shift_of_work? seat made replies
      have count : next.seats.length = service.seats.length :=
        (entry_of_step? made).seats_length
      rw [lone, List.length_singleton, List.length_eq_one_iff] at count
      obtain ⟨only, alone⟩ := count
      rw [alone] at now
      refine ⟨after, more, ?_, works⟩
      rw [alone]
      exact congrArg (fun seat => [seat]) (Option.some.inj now)

/-- Once the queue is closed, a lone worker of the service is on a shift. -/
theorem shift_of_steps?
    {moves : List Move}
    {reached : Service}
    (lone : service.seats = [⟨.compile, occupation⟩])
    (closed : service.hasSender = false)
    (run : service.steps? moves = some reached)
    (replies : List (Option Report)) :
    ∃ after more, reached.seats = [⟨.compile, after⟩] ∧
      (service.shiftAt occupation replies).turns? (service.station 0) (moves.map turnOf) =
        some (reached.shiftAt after (replies ++ more)) := by
  induction moves generalizing service occupation replies with
  | nil =>
      cases run
      refine ⟨occupation, [], lone, ?_⟩
      rw [List.append_nil]
      rfl
  | cons move rest inductionHypothesis =>
      unfold steps? at run
      rw [List.foldlM_cons, Option.bind_eq_bind, Option.bind_eq_some_iff] at run
      obtain ⟨next, made, onward⟩ := run
      obtain ⟨between, some, still, turned⟩ := shift_of_step? lone closed made replies
      obtain ⟨after, more, last, taken⟩ :=
        inductionHypothesis still (hasSender_of_step? made closed) onward (replies ++ some)
      have same : next.station 0 = service.station 0 := by
        obtain ⟨host, settings, _⟩ := step?_settings made
        rw [station, station, host, settings]
      refine ⟨after, some ++ more, last, ?_⟩
      rw [List.map_cons, Worker.Shift.turns?_cons, turned, Option.bind_some, ← same, taken,
        List.append_assoc]

end Service

end CompilePlayground
