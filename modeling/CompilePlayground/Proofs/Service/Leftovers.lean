import CompilePlayground.Proofs.Posix.Descent
import CompilePlayground.Proofs.Service.InTurn

namespace CompilePlayground

open Posix

/-!
# What is left of the group of a compiler

A compiler that takes too long is ended with all of its group, and nobody joins the group again. A
compiler that ends by itself is only forgotten: what else is in its group goes on, whatever becomes
of the job.
-/

namespace Compilation

variable {host : Host} {compilation : Compilation} {machine : Machine} {stepped : Stepped}

/-- A machine of which only the disk has changed. -/
theorem descends_withDisk
    {next : Machine}
    {result : Except IoError Disk}
    (made : result.map machine.withDisk = .ok next) :
    machine.Descends next := by
  cases result with
  | error cause =>
      cases made
  | ok disk =>
      cases made
      exact .of_same (Nat.le_refl _) rfl

/-- What could not be done for a job starts no process. -/
theorem descends_fail
    {cause : IoError}
    (failed : compilation.fail cause machine = some stepped) :
    machine.Descends stepped.machine := by
  unfold fail at failed
  split at failed
  all_goals cases failed
  case h_5 =>
    exact .sendWhere _ _ _
  all_goals exact .refl machine

/-- What is done for a job starts no process but the compiler. -/
theorem descends_step
    (made : compilation.step host machine = some stepped) :
    machine.Descends stepped.machine := by
  unfold step at made
  cases stage : compilation.stage with
  | makeDirectory =>
      simp only [stage] at made
      split at made
      next next created =>
        cases made
        exact descends_withDisk created
      next cause failed =>
        refine Machine.Descends.trans (.of_same ?_ ?_) (descends_fail made)
        all_goals
          unfold Machine.afterFailedDirectories
          split <;> rfl
  | writeSource =>
      simp only [stage] at made
      split at made
      next next filled =>
        cases made
        exact descends_withDisk filled
      next =>
        exact descends_fail made
  | openOutput =>
      simp only [stage] at made
      split at made
      next output next opened =>
        cases made
        exact Machine.descends_openName (Machine.withName_eq_ok.1 opened).2
      next =>
        exact descends_fail made
  | launch output =>
      simp only [stage] at made
      split at made
      next process next started =>
        cases made
        exact Machine.descends_spawn started
      next =>
        exact descends_fail made
  | await process deadline =>
      simp only [stage] at made
      split at made
      · exact descends_fail made
      · cases made
        exact .forget _ _
      · split at made
        · cases made
          exact ((Machine.Descends.sendWhere _ _ _).trans (.sendWhere _ _ _)).trans (.forget _ _)
        · cases made
  | readOutput verdict =>
      simp only [stage] at made
      split at made
      · cases made
        exact .refl machine
      · exact descends_fail made
  | clear outcome =>
      simp only [stage] at made
      split at made
      next next removed =>
        cases made
        exact descends_withDisk removed
      next =>
        exact descends_fail made
  | done outcome =>
      simp only [stage] at made
      cases made

theorem awaited?_of_fail
    {cause : IoError}
    (failed : compilation.fail cause machine = some stepped) :
    stepped.compilation.awaited? = none := by
  unfold fail at failed
  split at failed
  all_goals
    cases failed
    try rfl

/-- A compiler that is waited for after a step has been started by it. -/
theorem spawn_of_awaited?
    {process : Nat}
    (made : compilation.step host machine = some stepped)
    (waits : stepped.compilation.awaited? = some process) :
    ∃ output, compilation.stage = .launch output ∧
      machine.spawn host (compilation.command output) = .ok (process, stepped.machine) := by
  have goesOn {cause : IoError} {left : Machine}
      (failed : compilation.fail cause left = some stepped) : False := by
    rw [awaited?_of_fail failed] at waits
    cases waits
  unfold step at made
  cases stage : compilation.stage with
  | launch output =>
      simp only [stage] at made
      split at made
      next id next started =>
        cases made
        cases waits
        exact ⟨output, rfl, started⟩
      next =>
        exact (goesOn made).elim
  | makeDirectory | writeSource | openOutput | readOutput | clear =>
      simp only [stage] at made
      split at made
      · cases made
        cases waits
      · exact (goesOn made).elim
  | await id deadline =>
      simp only [stage] at made
      split at made
      · exact (goesOn made).elim
      · cases made
        cases waits
      · split at made
        · cases made
          cases waits
        · cases made
  | done outcome =>
      simp only [stage] at made
      cases made

/-- A compiler that is waited for after a step has a number that was not given before. -/
theorem fresh_of_awaited?
    {process : Nat}
    (made : compilation.step host machine = some stepped)
    (waits : stepped.compilation.awaited? = some process) :
    machine.fresh ≤ process ∧ process < stepped.machine.fresh := by
  obtain ⟨output, _, started⟩ := spawn_of_awaited? made waits
  have spawned := Machine.spawned_of_spawn started
  exact ⟨spawned.given, by rw [spawned.fresh]; exact Nat.lt_succ_self _⟩

end Compilation

/-- The process of the compiler that a worker waits for. -/
def Seat.awaited? (seat : Seat) : Option Nat :=
  match seat.occupation with
  | .busy _ compilation => compilation.awaited?
  | _ => none

namespace Inquiry

variable {machine next : Machine}

theorem descends_openTap (machine : Machine) : machine.Descends machine.openTap.2 :=
  .of_same (Nat.le_add_right machine.fresh 3) rfl

/-- To ask for the version starts no process but the compiler. -/
theorem descends_start
    {host : Host}
    {program : String}
    {inquiry : Inquiry}
    (starts : start host program machine = .ok (inquiry, next)) :
    machine.Descends next := by
  unfold start at starts
  simp only at starts
  split at starts
  next process _ spawned =>
    cases starts
    exact ((descends_openTap machine).trans (descends_openTap _)).trans
      (Machine.descends_spawn spawned)
  next =>
    cases starts

theorem descends_draw?
    {tap drawn : Tap}
    (draws : tap.draw? machine = some (drawn, next)) :
    machine.Descends next := by
  unfold Tap.draw? at draws
  split at draws
  · cases draws
  · split at draws
    · cases draws
    next read =>
      cases draws
      exact Machine.descends_readOpen read
    next read =>
      cases draws
      exact (Machine.descends_readOpen read).trans (.of_same (Nat.le_refl _) rfl)

theorem descends_listen?
    {inquiry heard : Inquiry}
    (listens : inquiry.listen? machine = some (heard, next)) :
    machine.Descends next := by
  unfold listen? at listens
  split at listens
  next draws =>
    cases listens
    exact descends_draw? draws
  next =>
    split at listens
    next draws =>
      cases listens
      exact descends_draw? draws
    next =>
      cases listens

end Inquiry

namespace Service

variable {service next : Service} {move : Move} {moves : List Move}

/-- What is done for a request leaves the workers alone, and starts no process but a compiler that
is asked for its version. -/
theorem attend?_eq
    {ticket : Nat}
    (made : service.attend? ticket = some next) :
    ∃ queue deliveries version exchanges replies machine events,
      service.machine.Descends machine ∧
        next =
          { service with queue, deliveries, version, exchanges, replies, machine, events } := by
  unfold attend? at made
  split at made
  · cases made
  next exchange _ =>
    split at made
    · cases made
      unfold submit
      split <;> exact ⟨_, _, _, _, _, _, _, .refl _, rfl⟩
    · obtain ⟨delivery, _, rfl⟩ := Option.map_eq_some_iff.1 made
      cases delivery <;> exact ⟨_, _, _, _, _, _, _, .refl _, rfl⟩
    · unfold inquire? at made
      split at made
      · cases made
        exact ⟨_, _, _, _, _, _, _, .refl _, rfl⟩
      · cases made
      · split at made
        next started =>
          cases made
          exact ⟨_, _, _, _, _, _, _, Inquiry.descends_start started, rfl⟩
        next =>
          cases made
          exact ⟨_, _, _, _, _, _, _, .refl _, rfl⟩
    · unfold listen? at made
      split at made
      next listens =>
        cases made
        exact ⟨_, _, _, _, _, _, _, Inquiry.descends_listen? listens, rfl⟩
      next inquiry _ _ =>
        obtain ⟨status, _, rfl⟩ := Option.map_eq_some_iff.1 made
        unfold conclude
        split <;> exact ⟨_, _, _, _, _, _, _, .forget _ _, rfl⟩

/-- What a worker does is the next step of its job, or it starts no process and waits for none. -/
theorem work?_cases
    {index : Nat}
    (made : service.work? index = some next) :
    (∃ ticket compilation stepped,
      Compilation.step service.host compilation service.machine = some stepped ∧
        next.machine = stepped.machine ∧
        next.seats = (service.occupy index (.busy ticket stepped.compilation)).seats) ∨
      next.machine = service.machine ∧
        (next.seats = service.seats ∨
          ∃ occupation, next.seats = (service.occupy index occupation).seats ∧
            ∀ ticket compilation, occupation = .busy ticket compilation →
              compilation.awaited? = none) := by
  unfold work? at made
  split at made
  · cases made
  next seat _ =>
    split at made
    · cases made
    · unfold compile? at made
      split at made
      next ticket compilation _ _ outcome _ =>
        cases made
        obtain ⟨_, shape⟩ :=
          deliver_eq (service.occupy index .idle) ticket (.report (Worker.report outcome))
        unfold finish
        rw [shape]
        exact .inr ⟨rfl, .inr ⟨.idle, rfl, fun _ _ turned => nomatch turned⟩⟩
      next =>
        obtain ⟨stepped, steps, rfl⟩ := Option.map_eq_some_iff.1 made
        exact .inl ⟨_, _, stepped, steps, rfl, rfl⟩
    · split at made
      next submission rest _ =>
        cases made
        unfold take
        split
        · refine .inr ⟨rfl, .inr ⟨_, rfl, ?_⟩⟩
          intro ticket compilation turned
          cases turned
          rfl
        · obtain ⟨_, shape⟩ := deliver_eq { service with queue := rest } submission.ticket .nothing
          rw [shape]
          exact .inr ⟨rfl, .inl rfl⟩
      next =>
        split at made
        · cases made
        · cases made
          unfold stop
          split <;> exact .inr ⟨rfl, .inr ⟨.stopped, rfl, fun _ _ turned => nomatch turned⟩⟩

/-- What a worker does starts no process but the compiler of its job. -/
theorem descends_work?
    {index : Nat}
    (made : service.work? index = some next) :
    service.machine.Descends next.machine := by
  rcases work?_cases made with ⟨_, _, _, steps, same, _⟩ | ⟨same, _⟩
  · rw [same]
    exact Compilation.descends_step steps
  · rw [same]
    exact .refl _

/-- Whatever is done, processes come from those that were there. -/
theorem descends_step?
    (orderly : service.machine.Orderly)
    (made : service.step? move = some next) :
    service.machine.Descends next.machine := by
  cases move with
  | receive request =>
      rw [step?, Option.ite_none_right_eq_some, Option.some.injEq] at made
      obtain ⟨_, rfl⟩ := made
      obtain ⟨_, _, _, _, _, _, shape⟩ := receive_eq service request
      rw [shape]
      exact .refl _
  | attend ticket =>
      obtain ⟨_, _, _, _, _, _, _, descends, rfl⟩ := attend?_eq made
      exact descends
  | leave ticket =>
      obtain ⟨exchange, _, rfl⟩ := Option.map_eq_some_iff.1 made
      unfold giveUp
      split
      · exact .of_same (Nat.le_refl _) rfl
      · exact .refl _
  | work index =>
      exact descends_work? made
  | run process =>
      obtain ⟨machine, turns, rfl⟩ := Option.map_eq_some_iff.1 made
      exact Machine.descends_turn orderly turns
  | wait moment =>
      cases made
      exact .of_same (Nat.le_refl _) rfl
  | close =>
      rw [step?, Option.ite_none_right_eq_some, Option.some.injEq] at made
      obtain ⟨_, rfl⟩ := made
      exact .refl _

/-- What holds of a service, and after each step of one that it holds of, holds after a run. -/
theorem steps?_induction
    {motive : Service → Prop}
    (start : motive service)
    (step : ∀ {before after : Service} {move : Move},
      motive before → before.step? move = some after → motive after)
    (run : service.steps? moves = some next) :
    motive next := by
  induction moves generalizing service with
  | nil =>
      cases run
      exact start
  | cons move rest inductionHypothesis =>
      unfold steps? at run
      rw [List.foldlM_cons, Option.bind_eq_bind, Option.bind_eq_some_iff] at run
      obtain ⟨second, made, onward⟩ := run
      exact inductionHypothesis (step start made) onward

/-- A run starts no processes but compilers. -/
theorem descends_steps?
    (orderly : service.machine.Orderly)
    (run : service.steps? moves = some next) :
    service.machine.Descends next.machine := by
  refine steps?_induction (motive := fun reached => service.machine.Descends reached.machine)
    (.refl _) ?_ run
  intro before after move sofar made
  exact sofar.trans (descends_step? (sofar.orderly orderly) made)

/-- A process that a worker waits for has a number that was given, and is not the host. -/
def Led (service : Service) : Prop :=
  ∀ index process : Nat, service.seats[index]?.bind Seat.awaited? = some process →
    Machine.hostId < process ∧ process < service.machine.fresh

/-- A worker waits for the process that it waited for, unless it has turned to something else. -/
theorem awaited?_of_occupy
    {index other process : Nat}
    {occupation : Occupation}
    (waits : (service.occupy index occupation).seats[other]?.bind Seat.awaited? = some process) :
    service.seats[other]?.bind Seat.awaited? = some process ∨
      ∃ ticket compilation, occupation = .busy ticket compilation ∧
        compilation.awaited? = some process := by
  obtain ⟨seat, here, own⟩ := Option.bind_eq_some_iff.1 waits
  rcases @Books.seat_occupy service.books _ _ _ _ here with ⟨_, there⟩ | ⟨_, turned, _⟩
  · left
    rw [show service.seats[other]? = some seat from there]
    exact own
  · right
    unfold Seat.awaited? at own
    rw [turned] at own
    split at own
    next ticket compilation =>
      exact ⟨ticket, compilation, rfl, own⟩
    next =>
      cases own

/-- A worker that goes on waits for a process that was waited for, or that has just been
started. -/
theorem awaited?_of_work?
    {index other process : Nat}
    (made : service.work? index = some next)
    (waits : next.seats[other]?.bind Seat.awaited? = some process) :
    service.seats[other]?.bind Seat.awaited? = some process ∨
      service.machine.fresh ≤ process ∧ process < next.machine.fresh := by
  rcases work?_cases made with
    ⟨ticket, compilation, stepped, steps, same, seats⟩ | ⟨_, seats | ⟨occupation, seats, idle⟩⟩
  · rw [seats] at waits
    rcases awaited?_of_occupy waits with before | ⟨_, _, turned, own⟩
    · exact .inl before
    · cases turned
      rw [same]
      exact .inr (Compilation.fresh_of_awaited? steps own)
  · rw [seats] at waits
    exact .inl waits
  · rw [seats] at waits
    rcases awaited?_of_occupy waits with before | ⟨ticket, compilation, turned, own⟩
    · exact .inl before
    · rw [idle ticket compilation turned] at own
      cases own

/-- Workers wait for processes that were started, whatever is done. -/
theorem led_of_step?
    (orderly : service.machine.Orderly)
    (led : service.Led)
    (made : service.step? move = some next) :
    next.Led := by
  intro other process waits
  have begun := orderly.begun
  have fresh := (descends_step? orderly made).fresh
  have before (same : next.seats = service.seats) :
      Machine.hostId < process ∧ process < next.machine.fresh := by
    rw [same] at waits
    have known := led other process waits
    omega
  cases move with
  | receive request =>
      rw [step?, Option.ite_none_right_eq_some, Option.some.injEq] at made
      obtain ⟨_, rfl⟩ := made
      obtain ⟨_, _, _, _, _, _, shape⟩ := receive_eq service request
      exact before (by rw [shape])
  | attend ticket =>
      obtain ⟨_, _, _, _, _, _, _, _, rfl⟩ := attend?_eq made
      exact before rfl
  | leave ticket =>
      obtain ⟨exchange, _, rfl⟩ := Option.map_eq_some_iff.1 made
      refine before ?_
      unfold giveUp
      split <;> rfl
  | work index =>
      rcases awaited?_of_work? made waits with earlier | started
      · have known := led other process earlier
        omega
      · omega
  | run process =>
      obtain ⟨machine, _, rfl⟩ := Option.map_eq_some_iff.1 made
      exact before rfl
  | wait moment =>
      cases made
      exact before rfl
  | close =>
      rw [step?, Option.ite_none_right_eq_some, Option.some.injEq] at made
      obtain ⟨_, rfl⟩ := made
      exact before rfl

/-- An orderly machine stays so on a run, and workers wait for processes that were started. -/
theorem led_of_steps?
    (orderly : service.machine.Orderly)
    (led : service.Led)
    (run : service.steps? moves = some next) :
    next.machine.Orderly ∧ next.Led := by
  refine steps?_induction (motive := fun reached => reached.machine.Orderly ∧ reached.Led)
    ⟨orderly, led⟩ ?_ run
  intro before after move sofar made
  exact ⟨(descends_step? sofar.1 made).orderly sofar.1, led_of_step? sofar.1 sofar.2 made⟩

/-- No worker of a service that begins waits for a process. -/
theorem led_launch
    (host : Host)
    (settings : CompilerSettings)
    (pageName : Bytes)
    (rate? : Option Nat)
    (workers : Nat)
    (machine : Machine)
    (names : Nat → String) :
    (launch host settings pageName rate? workers machine names).Led := by
  intro index process waits
  obtain ⟨seat, here, own⟩ := Option.bind_eq_some_iff.1 waits
  obtain ⟨duty, _, rfl⟩ := List.mem_map.1 (List.mem_of_getElem? here)
  cases own

/-- What is left of the group of a compiler after its worker has gone on. -/
structure Left (process : Nat) (service next : Service) : Prop where
  /-- Nothing is left of it when the time of the compiler is over. -/
  overdue : service.machine.poll process = .ok none →
    next.machine.isGroupAlive process = false
  /-- When the compiler has ended by itself, all other processes are left as they are. -/
  ended : ∀ status, service.machine.poll process = .ok (some status) →
    next.machine.processes = service.machine.processes.filter (·.id != process)
  /-- Once nothing is left, nothing is there again. -/
  gone : next.machine.isGroupAlive process = false → ∀ moves last, next.steps? moves = some last →
    last.machine.isGroupAlive process = false

/-- A worker that waits for a compiler goes on as its job does. -/
theorem exists_step_of_work?
    {index process : Nat}
    (awaits : service.seats[index]?.bind Seat.awaited? = some process)
    (made : service.step? (.work index) = some next) :
    ∃ compilation deadline stepped, compilation.stage = .await process deadline ∧
      Compilation.step service.host compilation service.machine = some stepped ∧
      next.machine = stepped.machine := by
  obtain ⟨⟨duty, occupation⟩, here, waits⟩ := Option.bind_eq_some_iff.1 awaits
  unfold Seat.awaited? Compilation.awaited? at waits
  split at waits
  next ticket compilation busy =>
    subst busy
    split at waits
    next _ deadline stage =>
      cases waits
      have unfinished : compilation.outcome? = none := by
        simp [Compilation.outcome?, stage]
      simp only [step?, work?, here, compile?, unfinished, Option.map_eq_some_iff] at made
      obtain ⟨stepped, steps, rfl⟩ := made
      exact ⟨compilation, deadline, stepped, stage, steps, rfl⟩
    next =>
      cases waits
  next =>
    cases waits

/-- When a worker goes on that has waited for a compiler, its whole group has been ended, or the
compiler alone has ended; and what has ended does not come back. -/
theorem left_of_steps?
    {host : Host}
    {settings : CompilerSettings}
    {pageName : Bytes}
    {rate? : Option Nat}
    {workers index process : Nat}
    {names : Nat → String}
    {machine : Machine}
    (orderly : machine.Orderly)
    (run : (launch host settings pageName rate? workers machine names).steps? moves =
      some service)
    (awaits : service.seats[index]?.bind Seat.awaited? = some process)
    (made : service.step? (.work index) = some next) :
    Left process service next := by
  obtain ⟨orderlyThen, led⟩ := led_of_steps?
    (show (launch host settings pageName rate? workers machine names).machine.Orderly from orderly)
    (led_launch host settings pageName rate? workers machine names) run
  have descends := descends_step? orderlyThen made
  have numbered := led index process awaits
  have foreign : process ≠ Machine.hostId :=
    Nat.ne_of_gt numbered.1
  obtain ⟨compilation, deadline, stepped, stage, steps, same⟩ :=
    exists_step_of_work? awaits made
  unfold Compilation.step at steps
  simp only [stage] at steps
  constructor
  case overdue =>
    intro waits
    simp only [waits] at steps
    split at steps
    · cases steps
      rw [same]
      have killed := Machine.isGroupAlive_killGroup orderlyThen numbered.2 foreign
      have later : (service.machine.killGroup process).Descends
          (((service.machine.killGroup process).killProcess process).forget process) :=
        (Machine.Descends.sendWhere _ _ _).trans (.forget _ _)
      exact later.isGroupAlive_eq_false numbered.2 foreign killed
    · cases steps
  case ended =>
    intro status told
    simp only [told] at steps
    cases steps
    rw [same]
    rfl
  case gone =>
    intro nothing moves last onward
    have later := descends_steps? (descends.orderly orderlyThen) onward
    exact later.isGroupAlive_eq_false (Nat.lt_of_lt_of_le numbered.2 descends.fresh) foreign nothing

namespace Sample

/-- A program that sleeps for an hour and makes a file then. -/
def sleeper : Program :=
  .call (.sleepUntil 3600000000000) fun _ =>
    .call (.openFile [47, 108] .truncate) fun _ => .exit 0

/-- A machine with a compiler that splits off a sleeper and goes on with a program. -/
def splitting (program : Program) : Machine :=
  let bare := [[[119]], [[100, 101, 118]]].foldl Disk.addDirectory Disk.empty
  let device : File := { content := .void, mode := 0o666, modified := 0 }
  let compiler : File :=
    { content := .program fun _ => .split sleeper fun _ => program, mode := 0o755, modified := 0 }
  let equipped := (bare.addFile [[100, 101, 118], [110, 117, 108, 108]] device).2
  Machine.ofDisk (equipped.addFile [[99]] compiler).2

/-- A client sends a source, and the worker waits for the compiler, which has split. -/
def awaiting : List Move :=
  [.receive (request [97]), .attend 0, .work 0, .work 0, .work 0, .work 0, .work 0, .run 1002]

/-- A service with one worker and a compiler that splits. -/
def lonely (program : Program) : Service :=
  launch host settings [] none 1 (splitting program)

/-- The worker is told that its compiler has ended, does the rest for the job and hands it over. -/
def returning : List Move :=
  [.work 0, .work 0, .work 0, .work 0, .attend 0]

end Sample

/-- A compiler that sleeps with what it has split off is ended with it when its time is over. -/
theorem left_of_steps?_of_sleeper :
    ∃ service next,
      (Sample.lonely Sample.sleeper).steps? (Sample.awaiting ++ [.wait 1000000000]) =
          some service ∧
        service.step? (.work 0) = some next ∧
        (service.machine.isGroupAlive 1002 = true ∧ next.machine.isGroupAlive 1002 = false) ∧
        Left 1002 service next := by
  have made : ((Sample.lonely Sample.sleeper).steps?
      (Sample.awaiting ++ [.wait 1000000000])).map (fun service =>
        (service.seats[0]?.bind Seat.awaited?, service.machine.isGroupAlive 1002,
          (service.step? (.work 0)).map fun next => next.machine.isGroupAlive 1002)) =
        some (some 1002, true, some false) := by
    decide +kernel
  obtain ⟨service, run, facts⟩ := Option.map_eq_some_iff.1 made
  simp only [Prod.mk.injEq] at facts
  obtain ⟨awaits, before, after⟩ := facts
  obtain ⟨next, step, ended⟩ := Option.map_eq_some_iff.1 after
  exact ⟨service, next, run, step, ⟨before, ended⟩,
    left_of_steps? (Machine.orderly_ofDisk _) run awaits step⟩

/-- What a compiler has split off goes on when the compiler has ended by itself and its job has
been handed over. -/
theorem not_isGroupAlive_eq_false :
    ¬∀ (host : Host) (settings : CompilerSettings) (machine : Machine) (workers : Nat)
      (moves more : List Move) (service last : Service) (index process : Nat),
        machine.Orderly →
          (launch host settings [] none workers machine).steps? moves = some service →
            service.seats[index]?.bind Seat.awaited? = some process →
              service.steps? more = some last →
                last.seats[index]?.map Seat.isBusy = some false →
                  last.machine.isGroupAlive process = false := by
  intro ends
  have made : ((Sample.lonely (.exit 0)).steps? (Sample.awaiting ++ [.run 1002])).bind
      (fun service => (service.steps? Sample.returning).map fun last =>
        (service.seats[0]?.bind Seat.awaited?, last.seats[0]?.map Seat.isBusy,
          last.machine.isGroupAlive 1002)) = some (some 1002, some false, true) := by
    decide +kernel
  obtain ⟨service, run, onward⟩ := Option.bind_eq_some_iff.1 made
  obtain ⟨last, goesOn, facts⟩ := Option.map_eq_some_iff.1 onward
  simp only [Prod.mk.injEq] at facts
  obtain ⟨awaits, returned, alive⟩ := facts
  have ended := ends Sample.host Sample.settings (Sample.splitting (.exit 0)) 1
    (Sample.awaiting ++ [Move.run 1002]) Sample.returning service last 0 1002
    (Machine.orderly_ofDisk _) run awaits goesOn returned
  rw [ended] at alive
  cases alive

end Service

end CompilePlayground
