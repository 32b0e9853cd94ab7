import CompilePlayground.Proofs.Posix.Sharing
import Mathlib.Data.List.Nodup

namespace CompilePlayground.Posix

open List

/-!
# Where processes come from

Every process of a machine follows one that was there before, as what that has become or as what
it has split off, or the host has started it, in a group that is new or in its own. So a group
whose processes have all ended is never joined again. No process can say what is to be done with
the signal that ends it, so that all processes of a group can be ended at once.
-/

namespace Process

/-- A process that has nothing to say about the signal that ends it. -/
def Yields (process : Process) : Prop :=
  ∀ entry ∈ process.dispositions, entry.1 ≠ Signal.kill

/-- What a process has become, or has split off. -/
structure Follows (before after : Process) : Prop where
  group : after.group = before.group
  alive : after.isAlive = true → before.isAlive = true
  yields : before.Yields → after.Yields

namespace Follows

/-- A process follows one of its group that says the same about signals and is alive if it is. -/
theorem of_same
    {before after : Process}
    (group : after.group = before.group)
    (alive : after.isAlive = true → before.isAlive = true)
    (dispositions : after.dispositions = before.dispositions) :
    before.Follows after where
  group
  alive
  yields yields entry member := yields entry (dispositions ▸ member)

theorem refl (process : Process) : process.Follows process :=
  of_same rfl (fun alive => alive) rfl

theorem trans {first second third : Process}
    (before : first.Follows second)
    (after : second.Follows third) :
    first.Follows third where
  group := after.group.trans before.group
  alive lives := before.alive (after.alive lives)
  yields yields := after.yields (before.yields yields)

end Follows

/-- A process that yields takes the standard disposition for the signal that ends it. -/
theorem dispositionOf_kill
    {process : Process}
    (yields : process.Yields) :
    process.dispositionOf Signal.kill = .standard := by
  have unsaid : process.dispositions.lookup Signal.kill = none := by
    rw [List.lookup_eq_none_iff]
    intro entry member
    exact bne_iff_ne.2 (yields entry member).symm
  unfold dispositionOf
  rw [unsaid]
  rfl

/-- A process that yields ends by the signal that ends it. -/
theorem isAlive_receive_kill
    {process : Process}
    (yields : process.Yields) :
    (process.receive Signal.kill).isAlive = false := by
  unfold receive
  cases progress : process.progress with
  | ended status =>
      simp [isAlive, progress]
  | running program =>
      rw [dispositionOf_kill yields]
      rfl
  | stopped program =>
      rfl

/-- A signal does not bring a process back, nor change what it does with signals. -/
theorem follows_receive (process : Process) (number : Nat) :
    process.Follows (process.receive number) := by
  unfold receive
  cases running : process.progress with
  | ended status =>
      exact .refl process
  | running program | stopped program =>
      have alive : process.isAlive = true := by
        simp [isAlive, running]
      repeat' split
      all_goals exact .of_same rfl (fun _ => alive) rfl

/-- What a process does with a signal is set only where it may say so. -/
theorem follows_dispose
    {number : Nat}
    (bindable : Signal.isBindable number = true)
    (process : Process)
    (disposition : Disposition) :
    process.Follows (process.dispose number disposition) where
  group := rfl
  alive alive := alive
  yields yields entry member := by
    rcases List.mem_cons.1 member with rfl | earlier
    · rintro rfl
      cases bindable
    · exact yields entry (List.mem_of_mem_filter earlier)

theorem follows_replace
    {process : Process}
    (alive : process.isAlive = true)
    (program : Program) :
    process.Follows (process.replace program) where
  group := rfl
  alive _ := alive
  yields yields entry member := yields entry (List.mem_of_mem_filter member)

end Process

namespace Machine

/-- A machine whose processes have numbers of their own, none of them that of the host, and yield
to the signal that ends them. -/
structure Orderly (machine : Machine) : Prop where
  begun : hostId < machine.fresh
  distinct : (machine.processes.map Process.id).Nodup
  known : ∀ process ∈ machine.processes, hostId < process.id ∧ process.id < machine.fresh
  yields : ∀ process ∈ machine.processes, process.Yields

/-- A machine without processes is orderly. -/
theorem orderly_ofDisk (disk : Disk) : (ofDisk disk).Orderly where
  begun := show hostId < firstId by decide
  distinct := List.nodup_nil
  known := nofun
  yields := nofun

/-- A machine whose processes come from those of another one. -/
structure Descends (before after : Machine) : Prop where
  fresh : before.fresh ≤ after.fresh
  ids : ∃ added, after.processes.map Process.id <+ before.processes.map Process.id ++ added ∧
    added.Nodup ∧ ∀ id ∈ added, before.fresh ≤ id ∧ id < after.fresh
  origin : ∀ process ∈ after.processes,
    (∃ former ∈ before.processes, former.Follows process) ∨
      (before.fresh ≤ process.group ∨ process.group = hostId) ∧ process.Yields

variable {before after machine next : Machine} {host : Host}

namespace Descends

/-- No processes are added. -/
theorem of_former
    (fresh : before.fresh ≤ after.fresh)
    (ids : after.processes.map Process.id <+ before.processes.map Process.id)
    (former : ∀ process ∈ after.processes, ∃ former ∈ before.processes, former.Follows process) :
    Descends before after where
  fresh
  ids := ⟨[], by rwa [List.append_nil], List.nodup_nil, nofun⟩
  origin process member := .inl (former process member)

/-- The same processes are there as before. -/
theorem of_same
    (fresh : before.fresh ≤ after.fresh)
    (same : after.processes = before.processes) :
    Descends before after := by
  refine of_former fresh (by rw [same]) ?_
  intro process member
  exact ⟨process, same ▸ member, .refl process⟩

theorem refl (machine : Machine) : Descends machine machine :=
  of_same (Nat.le_refl _) rfl

theorem trans {first second third : Machine}
    (before : Descends first second)
    (after : Descends second third) :
    Descends first third where
  fresh := Nat.le_trans before.fresh after.fresh
  ids := by
    obtain ⟨added, within, distinct, between⟩ := before.ids
    obtain ⟨more, withinMore, distinctMore, betweenMore⟩ := after.ids
    refine ⟨added ++ more, ?_, List.nodup_append.2 ⟨distinct, distinctMore, ?_⟩, ?_⟩
    · rw [← List.append_assoc]
      exact withinMore.trans (within.append (List.Sublist.refl more))
    · rintro id early _ late rfl
      have one := between id early
      have two := betweenMore id late
      omega
    · intro id member
      have fresh := before.fresh
      have freshMore := after.fresh
      rcases List.mem_append.1 member with early | late
      · have one := between id early
        omega
      · have two := betweenMore id late
        omega
  origin process member := by
    rcases after.origin process member with ⟨middle, there, follows⟩ | ⟨new | own, yields⟩
    · rcases before.origin middle there with ⟨former, here, followed⟩ | ⟨apart, yields⟩
      · exact .inl ⟨former, here, followed.trans follows⟩
      · rw [← follows.group] at apart
        exact .inr ⟨apart, follows.yields yields⟩
    · exact .inr ⟨.inl (Nat.le_trans before.fresh new), yields⟩
    · exact .inr ⟨.inr own, yields⟩

/-- An orderly machine stays so. -/
theorem orderly
    (descends : Descends before after)
    (orderly : before.Orderly) :
    after.Orderly := by
  obtain ⟨added, within, distinct, between⟩ := descends.ids
  have begun := orderly.begun
  have fresh := descends.fresh
  constructor
  case begun =>
    omega
  case distinct =>
    refine within.nodup (List.nodup_append.2 ⟨orderly.distinct, distinct, ?_⟩)
    rintro id early _ late rfl
    obtain ⟨process, member, rfl⟩ := List.mem_map.1 early
    have known := orderly.known process member
    have new := between process.id late
    omega
  case known =>
    intro process member
    rcases List.mem_append.1 (within.subset (List.mem_map_of_mem member)) with early | late
    · obtain ⟨former, here, same⟩ := List.mem_map.1 early
      have known := orderly.known former here
      omega
    · have new := between process.id late
      omega
  case yields =>
    intro process member
    rcases descends.origin process member with ⟨former, here, follows⟩ | ⟨_, new⟩
    · exact follows.yields (orderly.yields former here)
    · exact new

/-- A group whose processes have all ended is not joined again. -/
theorem isGroupAlive_eq_false
    {group : Nat}
    (descends : Descends before after)
    (known : group < before.fresh)
    (foreign : group ≠ hostId)
    (ended : before.isGroupAlive group = false) :
    after.isGroupAlive group = false := by
  unfold isGroupAlive at ended ⊢
  rw [List.any_eq_false] at ended ⊢
  intro process member lives
  rw [Bool.and_eq_true, decide_eq_true_eq] at lives
  obtain ⟨own, alive⟩ := lives
  rcases descends.origin process member with ⟨former, here, follows⟩ | ⟨new | other, _⟩
  · refine ended former here ?_
    rw [Bool.and_eq_true, decide_eq_true_eq]
    exact ⟨follows.group.symm.trans own, follows.alive alive⟩
  · omega
  · exact foreign (own.symm.trans other)

/-- Each process has become something else. -/
theorem of_map
    {change : Process → Process}
    (fresh : before.fresh ≤ after.fresh)
    (changed : after.processes = before.processes.map change)
    (same : ∀ process, (change process).id = process.id)
    (follows : ∀ process ∈ before.processes, process.Follows (change process)) :
    Descends before after := by
  refine of_former fresh ?_ ?_
  · rw [changed, List.map_map, show Process.id ∘ change = Process.id from funext same]
  · intro process member
    rw [changed] at member
    obtain ⟨former, here, rfl⟩ := List.mem_map.1 member
    exact ⟨former, here, follows former here⟩

/-- One process has become something else. -/
theorem updateProcess
    (machine : Machine)
    (id : Nat)
    {change : Process → Process}
    (same : ∀ process, (change process).id = process.id)
    (follows : ∀ process ∈ machine.processes, process.id = id →
      process.Follows (change process)) :
    Descends machine (machine.updateProcess id change) := by
  refine of_map (Nat.le_refl _) rfl ?_ ?_
  · intro process
    split
    · exact same process
    · rfl
  · intro process member
    split
    next own =>
      exact follows process member own
    next =>
      exact .refl _

/-- Some processes are not there any more. -/
theorem of_filter
    {keeps : Process → Bool}
    (fresh : before.fresh ≤ after.fresh)
    (kept : after.processes = before.processes.filter keeps) :
    Descends before after := by
  refine of_former fresh ?_ ?_
  · rw [kept]
    exact List.filter_sublist.map _
  · intro process member
    rw [kept] at member
    exact ⟨process, List.mem_of_mem_filter member, .refl process⟩

/-- One process has changed in nothing that its group, its end or signals depend on. -/
theorem updateKept
    (machine : Machine)
    (id : Nat)
    {change : Process → Process}
    (kept : ∀ process, (change process).id = process.id ∧
      (change process).group = process.group ∧ (change process).progress = process.progress ∧
        (change process).dispositions = process.dispositions) :
    Descends machine (machine.updateProcess id change) := by
  refine updateProcess machine id (fun process => (kept process).1) ?_
  intro process _ _
  obtain ⟨_, group, progress, dispositions⟩ := kept process
  refine .of_same group ?_ dispositions
  unfold Process.isAlive
  rw [progress]
  exact fun alive => alive

/-- One process is added, with the next number. -/
theorem add
    {process : Process}
    (fresh : after.fresh = before.fresh + 1)
    (added : after.processes = before.processes ++ [process])
    (number : process.id = before.fresh)
    (origin : (∃ former ∈ before.processes, former.Follows process) ∨
      (before.fresh ≤ process.group ∨ process.group = hostId) ∧ process.Yields) :
    Descends before after where
  fresh := by
    omega
  ids := by
    refine ⟨[process.id], ?_, List.nodup_singleton _, ?_⟩
    · rw [added, List.map_append]
      exact .refl _
    · intro id listed
      rw [List.mem_singleton.1 listed]
      omega
  origin other listed := by
    rw [added] at listed
    rcases List.mem_append.1 listed with there | new
    · exact .inl ⟨other, there, .refl other⟩
    · rw [List.mem_singleton.1 new]
      exact origin

theorem adopt (machine : Machine) : Descends machine machine.adopt := by
  unfold Machine.adopt
  simp only
  generalize changes : (fun process : Process =>
    if process.parent = nobody || process.parent = 0 ||
      machine.processes.any fun other => other.id = process.parent && other.isAlive then process
    else { process with parent := nobody }) = change
  have changed : Descends machine { machine with processes := machine.processes.map change } := by
    refine of_map (Nat.le_refl _) rfl ?_ ?_
    · intro process
      rw [← changes]
      simp only
      split <;> rfl
    · intro process _
      rw [← changes]
      simp only
      split
      · exact .refl process
      · exact .of_same rfl (fun alive => alive) rfl
  exact changed.trans (of_filter (Nat.le_refl _) rfl)

theorem sendWhere (machine : Machine) (picks : Process → Bool) (number : Nat) :
    Descends machine (machine.sendWhere picks number) := by
  refine trans ?_ (adopt _)
  refine of_map (Nat.le_refl _) rfl ?_ ?_
  · intro process
    split
    · exact (receive_keeps process number).1
    · rfl
  · intro process _
    split
    · exact process.follows_receive number
    · exact .refl _

theorem endProcess (machine : Machine) (id : Nat) (status : ExitStatus) :
    Descends machine (machine.endProcess id status) := by
  refine trans (updateProcess machine id ?_ ?_) (adopt _)
  · exact fun _ => rfl
  · intro process _ _
    exact .of_same rfl nofun rfl

theorem forget (machine : Machine) (id : Nat) : Descends machine (machine.forget id) :=
  of_filter (Nat.le_refl _) rfl

theorem proceed (machine : Machine) (id : Nat) (program : Program) :
    Descends machine (machine.proceed id program) := by
  refine updateProcess machine id ?_ ?_
  · intro process
    split <;> rfl
  · intro process _ _
    cases progress : process.progress with
    | ended status =>
        exact .refl _
    | running program | stopped program =>
        exact .of_same rfl (fun _ => by simp [Process.isAlive, progress]) rfl

theorem send (machine : Machine) (sender : Process) (target : Int) (number : Nat) :
    Descends machine (machine.send sender target number).2 := by
  unfold Machine.send
  split
  · exact refl _
  · split
    · split
      · exact refl _
      · exact sendWhere _ _ _
    · exact refl _

end Descends

section Files

theorem descends_openName
    {start? : Option Path}
    {name : Bytes}
    {mode : OpenMode}
    {opened : Nat × Machine}
    (opens : machine.openName start? name mode = .ok opened) :
    Descends machine opened.2 := by
  unfold openName at opens
  repeat' split at opens
  all_goals
    cases opens
    try exact .of_same (Nat.le_succ _) rfl

theorem descends_addPipe (machine : Machine) : Descends machine machine.addPipe.2 :=
  .of_same (Nat.le_add_right machine.fresh 3) rfl

theorem descends_readOpen
    {id limit : Nat}
    {answer : Reply Bytes × Machine}
    (reads : machine.readOpen id limit = some answer) :
    Descends machine answer.2 := by
  unfold readOpen at reads
  simp only at reads
  repeat' split at reads
  all_goals
    cases reads
    try exact .of_same (Nat.le_refl _) rfl

theorem descends_writeOpen
    {id : Nat}
    {bytes : Bytes}
    {answer : Reply Unit × Bool × Machine}
    (writes : machine.writeOpen id bytes = some answer) :
    Descends machine answer.2.2 := by
  unfold writeOpen at writes
  simp only at writes
  repeat' split at writes
  all_goals
    cases writes
    try exact .of_same (Nat.le_refl _) rfl

theorem descends_onDisk (machine : Machine) (result : Reply Disk) :
    Descends machine (machine.onDisk result).2 := by
  unfold onDisk
  split <;> exact .of_same (Nat.le_refl _) rfl

end Files

theorem descends_reap?
    {parent : Process}
    {child? : Option Nat}
    {answer : Reply (Nat × ExitStatus) × Machine}
    (reaps : machine.reap? parent child? = some answer) :
    Descends machine answer.2 := by
  unfold reap? at reaps
  simp only at reaps
  split at reaps
  · cases reaps
    exact .refl _
  · split at reaps
    · cases reaps
      exact .forget _ _
    · cases reaps

/-- Whatever a process asks for, processes come from those that were there. -/
theorem descends_answer?
    {process : Process}
    {request : Request}
    {answer : Answered request}
    (answers : machine.answer? process request = some answer) :
    Descends machine answer.2 := by
  unfold answer? at answers
  cases request with
  | openFile path mode =>
      simp only at answers
      split at answers
      next id next opens =>
        cases answers
        exact (descends_openName opens).trans (.updateKept next _ fun _ => ⟨rfl, rfl, rfl, rfl⟩)
      next =>
        cases answers
        exact .refl _
  | closeFile | duplicate | duplicateFrom =>
      simp only at answers
      split at answers
      · cases answers
        exact .updateKept machine _ fun _ => ⟨rfl, rfl, rfl, rfl⟩
      · cases answers
        exact .refl _
  | openPipe =>
      cases answers
      exact (descends_addPipe machine).trans (.updateKept _ _ fun _ => ⟨rfl, rfl, rfl, rfl⟩)
  | read descriptor limit =>
      simp only at answers
      split at answers
      · exact descends_readOpen answers
      · cases answers
        exact .refl _
  | write descriptor bytes =>
      simp only at answers
      split at answers
      · split at answers
        next reply isBroken next writes =>
          split at answers
          · cases answers
            exact (descends_writeOpen writes).trans (.sendWhere _ _ _)
          · cases answers
            exact descends_writeOpen writes
        next =>
          cases answers
      · cases answers
        exact .refl _
  | createDirectory | removeFile | removeDirectory | rename | link | symbolicLink
  | changeMode =>
      cases answers
      exact descends_onDisk machine _
  | changeDirectory path =>
      simp only at answers
      split at answers
      · cases answers
        exact .updateKept machine _ fun _ => ⟨rfl, rfl, rfl, rfl⟩
      · cases answers
        exact .refl _
      · cases answers
        exact .refl _
  | waitChild child? =>
      exact descends_reap? answers
  | pollChild child =>
      simp only at answers
      split at answers
      next id status next reaps =>
        cases answers
        exact descends_reap? reaps
      next =>
        cases answers
        exact .refl _
  | signal target number =>
      cases answers
      exact .send machine process target number
  | setDisposition number disposition =>
      cases answers
      simp only
      split
      next bindable =>
        refine .updateProcess machine _ (fun _ => rfl) ?_
        exact fun process _ _ => process.follows_dispose bindable disposition
      next =>
        exact .refl _
  | takeSignal =>
      simp only at answers
      split at answers
      · cases answers
        exact .refl _
      · cases answers
        exact .updateKept machine _ fun _ => ⟨rfl, rfl, rfl, rfl⟩
  | _ =>
      simp only at answers
      repeat' split at answers
      all_goals
        cases answers
        try exact .refl _

/-- A process of an orderly machine is told by its number. -/
theorem Orderly.process_eq
    (orderly : machine.Orderly)
    {first second : Process}
    (firstThere : first ∈ machine.processes)
    (secondThere : second ∈ machine.processes)
    (same : first.id = second.id) :
    first = second :=
  List.inj_on_of_nodup_map orderly.distinct firstThere secondThere same

/-- Whatever a process does, processes come from those that were there. -/
theorem descends_turn
    {id : Nat}
    (orderly : machine.Orderly)
    (turns : machine.turn id = some next) :
    Descends machine next := by
  unfold turn at turns
  split at turns
  · cases turns
  next process found =>
    have member := mem_of_process? found
    have own := id_of_process? found
    split at turns
    · cases turns
      exact .endProcess _ _ _
    next program goesOn running =>
      cases turns
      have alive : process.isAlive = true := by
        simp [Process.isAlive, running]
      refine Descends.trans (.add rfl rfl rfl (.inl ?_)) (.proceed _ _ _)
      exact ⟨process, member, .of_same rfl (fun _ => alive) rfl⟩
    next path invocation goesOn running =>
      have alive : process.isAlive = true := by
        simp [Process.isAlive, running]
      split at turns
      next program leads =>
        cases turns
        refine .updateProcess machine id (fun _ => rfl) ?_
        intro other there same
        rw [orderly.process_eq there member (same.trans own.symm)]
        exact Process.follows_replace alive program
      · cases turns
        exact .proceed _ _ _
    · split at turns
      next answers =>
        cases turns
        exact (descends_answer? answers).trans (.proceed _ _ _)
      · cases turns
    · cases turns

/-- The host starts a process in a group of its own, or in the group of the host. -/
theorem descends_spawn
    {command : Command}
    {started : Nat × Machine}
    (starts : machine.spawn host command = .ok started) :
    Descends machine started.2 := by
  unfold spawn at starts
  split at starts
  · cases starts
  · cases entered : machine.directoryOf host command with
    | error error =>
        simp [orFail, entered, bind, Except.bind] at starts
    | ok directory =>
        cases found : Launch.find machine.disk (some directory) host.searchPath command.program
            ⟨command.program :: command.arguments, host.environment⟩ with
        | error error =>
            simp [orFail, entered, found, bind, Except.bind] at starts
        | ok program =>
            cases opens : machine.openName (some []) voidDevice .read with
            | error error =>
                simp [orFail, entered, found, opens, bind, Except.bind] at starts
            | ok opened =>
                simp only [orFail, entered, found, opens, bind, Except.bind] at starts
                cases starts
                refine (descends_openName opens).trans (.add rfl rfl rfl (.inr ⟨?_, ?_⟩))
                · simp only
                  split
                  · exact .inl (Nat.le_refl _)
                  · exact .inr rfl
                · exact fun _ claimed => absurd claimed List.not_mem_nil

/-- All processes of a group end by the signal that ends them. -/
theorem isGroupAlive_killGroup
    (orderly : machine.Orderly)
    {group : Nat}
    (known : group < machine.fresh)
    (foreign : group ≠ hostId) :
    (machine.killGroup group).isGroupAlive group = false := by
  unfold killGroup sendWhere
  refine (Descends.adopt _).isGroupAlive_eq_false known foreign ?_
  unfold isGroupAlive
  rw [List.any_eq_false]
  intro process member lives
  obtain ⟨former, here, rfl⟩ := List.mem_map.1 member
  rw [Bool.and_eq_true, decide_eq_true_eq] at lives
  obtain ⟨own, alive⟩ := lives
  by_cases picked : former.group = group
  · rw [if_pos (decide_eq_true picked),
      Process.isAlive_receive_kill (orderly.yields former here)] at alive
    cases alive
  · rw [if_neg (by simpa using picked)] at own
    exact picked own

end Machine

end CompilePlayground.Posix
