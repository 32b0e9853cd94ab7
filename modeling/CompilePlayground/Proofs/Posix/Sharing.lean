import CompilePlayground.Proofs.Posix.Hosting
import CompilePlayground.Proofs.Posix.Planting

namespace CompilePlayground.Posix.Machine

/-!
# One machine for several

Work that is done in one directory and with one process touches neither what stands elsewhere nor
other processes, as long as every process leads a group of its own and has the host for a parent.
-/

variable {machine before after : Machine} {place : Path} {own? : Option Nat}

/-- Every process has a number that was given, leads a group and has the host for a parent. -/
def Bred (machine : Machine) : Prop :=
  ∀ process ∈ machine.processes,
    process.id < machine.fresh ∧ process.group = process.id ∧ process.parent = hostId

/-- Work that touches one place, and at most one of the processes that there were. -/
structure Works (place : Path) (own? : Option Nat) (before after : Machine) : Prop where
  disk : Disk.Touches place before.disk after.disk
  clock : after.clock = before.clock
  fresh : before.fresh ≤ after.fresh
  processes : ∀ id, id < before.fresh → own? ≠ some id → after.process? id = before.process? id
  bred : after.Bred

theorem id_of_process?
    {id : Nat}
    {process : Process}
    (found : machine.process? id = some process) :
    process.id = id := by
  simpa using List.find?_some found

theorem mem_of_process?
    {id : Nat}
    {process : Process}
    (found : machine.process? id = some process) :
    process ∈ machine.processes :=
  List.mem_of_find?_eq_some found

/-- A process keeps its number when each does that is changed. -/
theorem find?_map_id
    (processes : List Process)
    (change : Process → Process)
    (keeps : ∀ process, (change process).id = process.id)
    (id : Nat) :
    (processes.map change).find? (fun process => process.id = id) =
      (processes.find? fun process => process.id = id).map change := by
  rw [List.find?_map]
  simp only [Function.comp_def, keeps]

/-- A signal changes neither the number of a process nor its group or its parent. -/
theorem receive_keeps (process : Process) (number : Nat) :
    (process.receive number).id = process.id ∧ (process.receive number).group = process.group ∧
      (process.receive number).parent = process.parent := by
  unfold Process.receive
  repeat' split
  all_goals exact ⟨rfl, rfl, rfl⟩

namespace Bred

/-- Nobody has to be adopted or forgotten while the host is the parent of all. -/
theorem adopt_eq
    (bred : machine.Bred) :
    machine.adopt = machine := by
  have parents : ∀ process ∈ machine.processes, process.parent = 0 :=
    fun process member => (bred process member).2.2
  unfold adopt
  have settled : (machine.processes.map fun process =>
      if process.parent = nobody || process.parent = 0 || machine.processes.any
        (fun other => other.id = process.parent && other.isAlive)
      then process else { process with parent := nobody }) = machine.processes := by
    conv_rhs => rw [← List.map_id machine.processes]
    apply List.map_congr_left
    intro process member
    simp [parents process member]
  simp only [settled]
  rw [List.filter_eq_self.2]
  intro process member
  simp [parents process member, nobody]

/-- A machine whose processes are changed without their numbers, groups and parents. -/
theorem map
    (bred : machine.Bred)
    (change : Process → Process)
    (keeps : ∀ process, (change process).id = process.id ∧
      (change process).group = process.group ∧ (change process).parent = process.parent) :
    ({ machine with processes := machine.processes.map change }).Bred := by
  intro process member
  obtain ⟨origin, isThere, rfl⟩ := List.mem_map.1 member
  obtain ⟨id, group, parent⟩ := keeps origin
  rw [id, group, parent]
  exact bred origin isThere

end Bred

/-- A signal to the one process changes no other, and nothing but processes. -/
theorem works_sendWhere
    (bred : machine.Bred)
    (sound : machine.disk.Sound)
    (place : Path)
    {picks : Process → Bool}
    {own : Nat}
    (only : ∀ process ∈ machine.processes, picks process = true → process.id = own)
    (number : Nat) :
    Works place (some own) machine (machine.sendWhere picks number) := by
  let change (process : Process) : Process :=
    if picks process then process.receive number else process
  have keeps (process : Process) : (change process).id = process.id ∧
      (change process).group = process.group ∧ (change process).parent = process.parent := by
    simp only [change]
    split
    · exact receive_keeps process number
    · exact ⟨rfl, rfl, rfl⟩
  have same : machine.sendWhere picks number =
      { machine with processes := machine.processes.map change } :=
    (bred.map change keeps).adopt_eq
  rw [same]
  refine ⟨.refl sound, rfl, Nat.le_refl _, ?_, bred.map change keeps⟩
  intro id _ other
  unfold process?
  rw [find?_map_id _ change fun process => (keeps process).1]
  cases found : machine.processes.find? fun process => process.id = id with
  | none =>
      rfl
  | some process =>
      have isId := id_of_process? found
      have unpicked : picks process = false := by
        rw [← Bool.not_eq_true]
        intro picked
        have isOwn := only process (mem_of_process? found) picked
        exact other (by rw [← isOwn, isId])
      simp [change, unpicked]

/-- Killing a process changes no other. -/
theorem works_killProcess
    (bred : machine.Bred)
    (sound : machine.disk.Sound)
    (place : Path)
    (own : Nat) :
    Works place (some own) machine (machine.killProcess own) :=
  works_sendWhere bred sound place (fun process _ picked => by simpa using picked) _

/-- Killing the group of a process changes no other. -/
theorem works_killGroup
    (bred : machine.Bred)
    (sound : machine.disk.Sound)
    (place : Path)
    (own : Nat) :
    Works place (some own) machine (machine.killGroup own) := by
  refine works_sendWhere bred sound place (fun process member picked => ?_) _
  rw [← (bred process member).2.1]
  simpa using picked

/-- Forgetting a process forgets no other. -/
theorem works_forget
    (bred : machine.Bred)
    (sound : machine.disk.Sound)
    (place : Path)
    (own : Nat) :
    Works place (some own) machine (machine.forget own) where
  disk := .refl sound
  clock := rfl
  fresh := Nat.le_refl _
  processes id _ other := by
    unfold process? forget
    rw [List.find?_filter]
    congr 1
    funext process
    by_cases isId : process.id = id
    · subst isId
      have apart : process.id ≠ own := fun same => other (by rw [same])
      simp [apart]
    · simp [isId]
  bred process member := bred process (List.mem_filter.1 member).1

/-- A process that ends ends no other. -/
theorem works_endProcess
    (bred : machine.Bred)
    (sound : machine.disk.Sound)
    (place : Path)
    (own : Nat)
    (status : ExitStatus) :
    Works place (some own) machine (machine.endProcess own status) ∧
      (machine.endProcess own status).process? own =
        (machine.process? own).map fun process => { process with progress := .ended status } := by
  let change (process : Process) : Process :=
    if process.id = own then { process with progress := .ended status } else process
  have keeps (process : Process) : (change process).id = process.id ∧
      (change process).group = process.group ∧ (change process).parent = process.parent := by
    simp only [change]
    split <;> exact ⟨rfl, rfl, rfl⟩
  have same : machine.endProcess own status =
      { machine with processes := machine.processes.map change } :=
    (bred.map change keeps).adopt_eq
  have find (id : Nat) : (machine.endProcess own status).process? id =
      (machine.process? id).map change := by
    rw [same]
    exact find?_map_id _ change (fun process => (keeps process).1) id
  refine ⟨?_, ?_⟩
  · rw [same]
    refine ⟨.refl sound, rfl, Nat.le_refl _, ?_, bred.map change keeps⟩
    intro id _ other
    rw [← same, find]
    cases found : machine.process? id with
    | none =>
        rfl
    | some process =>
        have apart : process.id ≠ own := fun isOwn => other (by rw [← isOwn, id_of_process? found])
        simp [change, apart]
  · rw [find]
    cases found : machine.process? own with
    | none =>
        rfl
    | some process =>
        simp [change, id_of_process? found]

theorem works_withDisk
    {disk : Disk}
    (bred : machine.Bred)
    (touches : Disk.Touches place machine.disk disk)
    (own? : Option Nat) :
    Works place own? machine (machine.withDisk disk) :=
  ⟨touches, rfl, Nat.le_refl _, fun _ _ _ => rfl, bred⟩

/-- Opening a file changes no process. -/
theorem works_addOpenFile
    {disk : Disk}
    (bred : machine.Bred)
    (touches : Disk.Touches place machine.disk disk)
    (stream : Stream)
    (mode : OpenMode)
    (own? : Option Nat) :
    Works place own? machine ((machine.withDisk disk).addOpenFile stream mode).2 where
  disk := touches
  clock := rfl
  fresh := Nat.le_succ _
  processes _ _ _ := rfl
  bred process member := by
    obtain ⟨given, group, parent⟩ := bred process member
    exact ⟨Nat.lt_succ_of_lt given, group, parent⟩

/-- Starting a process changes no other. -/
theorem Spawned.works
    {host : Host}
    {command : Command}
    {id : Nat}
    (spawned : Spawned host command before id after)
    (leads : command.leads = true)
    (bred : before.Bred)
    (sound : before.disk.Sound)
    (place : Path)
    (own? : Option Nat) :
    Works place own? before after := by
  obtain ⟨process, appended, isId, parent, group, _⟩ := spawned.processes
  have given := spawned.given
  have fresh := spawned.fresh
  refine ⟨?_, spawned.clock, by omega, ?_, ?_⟩
  · rw [spawned.disk]
    exact .refl sound
  · intro number older _
    have apart : process.id ≠ number := by
      omega
    unfold process?
    rw [appended, List.find?_append]
    simp [apart]
  · intro other member
    rw [appended, List.mem_append, List.mem_singleton] at member
    rcases member with older | rfl
    · obtain ⟨isGiven, rest⟩ := bred other older
      exact ⟨by omega, rest⟩
    · exact ⟨by omega, (group leads).trans isId.symm, parent⟩

/-- A process that was just started is there and has not ended. -/
theorem Spawned.found
    {host : Host}
    {command : Command}
    {id : Nat}
    (spawned : Spawned host command before id after)
    (bred : before.Bred) :
    ∃ process, after.process? id = some process ∧ process.ending? = none := by
  obtain ⟨process, appended, isId, _, _, running⟩ := spawned.processes
  have given := spawned.given
  refine ⟨process, ?_, running⟩
  unfold process?
  rw [appended, List.find?_append, List.find?_eq_none.2]
  · simp [isId]
  · intro other member
    obtain ⟨isGiven, _⟩ := bred other member
    simp only [decide_eq_true_eq]
    omega

namespace Works

/-- One work after another with the same process. -/
theorem trans
    {between : Machine}
    (first : Works place own? before between)
    (second : Works place own? between after) :
    Works place own? before after where
  disk := first.disk.trans second.disk
  clock := second.clock.trans first.clock
  fresh := Nat.le_trans first.fresh second.fresh
  processes id given other :=
    (second.processes id (Nat.lt_of_lt_of_le given first.fresh) other).trans
      (first.processes id given other)
  bred := second.bred

theorem refl
    (bred : machine.Bred)
    (sound : machine.disk.Sound)
    (place : Path)
    (own? : Option Nat) :
    Works place own? machine machine :=
  ⟨.refl sound, rfl, Nat.le_refl _, fun _ _ _ => rfl, bred⟩

/-- What another process has come to is not changed by work. -/
theorem ending?_eq
    (works : Works place own? before after)
    {id : Nat}
    (given : id < before.fresh)
    (other : own? ≠ some id) :
    after.ending? id = before.ending? id := by
  unfold ending?
  rw [works.processes id given other]

end Works

end CompilePlayground.Posix.Machine
