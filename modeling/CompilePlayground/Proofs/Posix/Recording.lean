import CompilePlayground.Posix.Spawn
import CompilePlayground.Proofs.Posix.Lookup

namespace CompilePlayground.Posix.Machine

/-!
# What is written through one open file

Descriptors that were copied from one another share an open file, and with it the place where the
next write goes. As long as nobody else writes to the file, it holds what was written through the
open file, in the order of the turns in which that happened, whichever processes took them.
-/

variable {before between after machine next : Machine} {output file : Nat} {text : Bytes}

/-- What an open file is after one was changed. -/
theorem openFile?_updateOpenFile
    (machine : Machine)
    (id : Nat)
    (change : OpenFile → OpenFile)
    (other : Nat) :
    (machine.updateOpenFile id change).openFile? other =
      if other = id then (machine.openFile? id).map change else machine.openFile? other := by
  unfold openFile? updateOpenFile
  simp only
  induction machine.openFiles with
  | nil =>
      simp
  | cons entry rest inductionHypothesis =>
      obtain ⟨number, opened⟩ := entry
      rw [List.map_cons]
      by_cases here : number = id
      · subst here
        by_cases same : other = number
        · subst same
          simp
        · rw [if_neg same] at inductionHypothesis
          simp [List.lookup_cons, beq_false_of_ne same, same, inductionHypothesis]
      · rw [if_neg here, List.lookup_cons, List.lookup_cons, List.lookup_cons,
          beq_false_of_ne (Ne.symm here), inductionHypothesis]
        by_cases same : other = id
        · subst same
          simp [beq_false_of_ne (Ne.symm here)]
        · simp [same]

/-- A file is written to through no open file but one. -/
def WrittenOnlyBy (machine : Machine) (output file : Nat) : Prop :=
  ∀ id opened, machine.openFile? id = some opened → opened.stream = .file file →
    opened.mode ≠ .read → id = output

/-- A file holds a text, and the next write through an open file goes to its end. -/
structure Records (output file : Nat) (text : Bytes) (machine : Machine) : Prop where
  holds : ∃ found, machine.disk.file? file = some found ∧ found.content = .bytes text
  opened : machine.openFile? output = some ⟨.file file, text.length, .truncate⟩
  known : file < machine.disk.fresh
  given : output < machine.fresh

/-- What a process with a request writes through an open file. -/
def saidBy (output : Nat) (process : Process) : Request → Bytes
  | .write descriptor bytes => if process.openFile? descriptor = some output then bytes else []
  | _ => []

/-- What a process writes through an open file in its next turn. -/
def said (machine : Machine) (output id : Nat) : Bytes :=
  match machine.process? id with
  | some process =>
    match process.progress with
    | .running (.call request _) => saidBy output process request
    | _ => []
  | none => []

/-- A file and an open file are as they were, and numbers that were given stay given. -/
structure Keeps (output file : Nat) (before after : Machine) : Prop where
  content : (after.disk.file? file).map File.content = (before.disk.file? file).map File.content
  opened : after.openFile? output = before.openFile? output
  known : before.disk.fresh ≤ after.disk.fresh
  given : before.fresh ≤ after.fresh

namespace Keeps

/-- Only the disk and the open files matter. -/
theorem of_same
    (disk : after.disk = before.disk)
    (openFiles : after.openFiles = before.openFiles)
    (fresh : before.fresh ≤ after.fresh) :
    Keeps output file before after where
  content := by rw [disk]
  opened := by
    unfold openFile?
    rw [openFiles]
  known := Nat.le_of_eq (by rw [disk])
  given := fresh

theorem refl (machine : Machine) : Keeps output file machine machine :=
  of_same rfl rfl (Nat.le_refl _)

theorem trans
    (earlier : Keeps output file before between)
    (later : Keeps output file between after) :
    Keeps output file before after where
  content := later.content.trans earlier.content
  opened := later.opened.trans earlier.opened
  known := Nat.le_trans earlier.known later.known
  given := Nat.le_trans earlier.given later.given

/-- Opening a file under a number of its own leaves those that are open as they are. -/
theorem addOpenFile
    (machine : Machine)
    (given : output < machine.fresh)
    (stream : Stream)
    (mode : OpenMode) :
    Keeps output file machine (machine.addOpenFile stream mode).2 where
  content := rfl
  opened := by
    unfold openFile? Machine.addOpenFile
    rw [List.lookup_cons, beq_false_of_ne (Nat.ne_of_lt given)]
  known := Nat.le_refl _
  given := Nat.le_succ _

/-- Changing one open file leaves the others as they are. -/
theorem updateOpenFile
    (machine : Machine)
    {id : Nat}
    (apart : output ≠ id)
    (change : OpenFile → OpenFile) :
    Keeps output file machine (machine.updateOpenFile id change) where
  content := rfl
  opened := by rw [openFile?_updateOpenFile, if_neg apart]
  known := Nat.le_refl _
  given := Nat.le_refl _

/-- A disk on which files hold what they held can take the place of another. -/
theorem withDisk
    {disk : Disk}
    (contents : (disk.file? file).map File.content =
      (machine.disk.file? file).map File.content)
    (fresh : machine.disk.fresh ≤ disk.fresh) :
    Keeps output file machine (machine.withDisk disk) :=
  ⟨contents, rfl, fresh, Nat.le_refl _⟩

end Keeps

/-- A file still holds what it held when it and its open file are as they were. -/
theorem Records.keeps
    (records : Records output file text before)
    (keeps : Keeps output file before after) :
    Records output file text after where
  holds := by
    obtain ⟨found, isThere, holds⟩ := records.holds
    have same := keeps.content
    rw [isThere] at same
    obtain ⟨now, isNow, alike⟩ := Option.map_eq_some_iff.1 same
    exact ⟨now, isNow, alike.trans holds⟩
  opened := keeps.opened.trans records.opened
  known := Nat.lt_of_lt_of_le records.known keeps.known
  given := Nat.lt_of_lt_of_le records.given keeps.given

section Names

variable {disk made : Disk} {start? : Option Path} {name : Bytes}

/-- Making a file where there is none changes no other. -/
theorem keeps_obtainFile
    {time id : Nat}
    (known : file < machine.disk.fresh)
    (obtained : machine.disk.obtainFile start? time name = .ok (id, made)) :
    Keeps output file machine (machine.withDisk made) := by
  unfold Disk.obtainFile at obtained
  repeat' split at obtained
  all_goals cases obtained
  · exact .refl machine
  next path _ =>
    refine .withDisk ?_ (Nat.le_succ _)
    have same := Disk.file?_addFile machine.disk path
      { content := .bytes [], mode := Disk.standardMode, modified := time } file
    rw [if_neg (Nat.ne_of_lt known)] at same
    exact congrArg (Option.map File.content) same

/-- A file that is opened gets a number of its own, and those that are there stay as they are, but
for one that is emptied. -/
theorem keeps_or_empties_of_openName
    {mode : OpenMode}
    {opened : Nat × Machine}
    (known : file < machine.disk.fresh)
    (given : output < machine.fresh)
    (opens : machine.openName start? name mode = .ok opened) :
    Keeps output file machine opened.2 ∨
      ∃ id, output < id ∧ opened.2.openFile? id = some ⟨.file file, 0, .truncate⟩ := by
  have writes (id : Nat) (made : Disk)
      (obtained : machine.disk.obtainFile start? machine.seconds name = .ok (id, made)) :
      Keeps output file machine ((machine.withDisk made).addOpenFile (.file id) mode).2 :=
    (keeps_obtainFile known obtained).trans (.addOpenFile (machine.withDisk made) given _ _)
  unfold openName at opens
  cases mode with
  | read =>
      simp only at opens
      repeat' split at opens
      all_goals
        cases opens
        try exact .inl (.addOpenFile machine given _ _)
  | append | update =>
      simp only [reduceCtorEq, if_false] at opens
      split at opens
      next id made obtained =>
        cases opens
        exact .inl (writes id made obtained)
      next =>
        cases opens
  | truncate =>
      simp only [if_true] at opens
      split at opens
      next id made obtained =>
        cases opens
        by_cases same : id = file
        · subst same
          refine .inr ⟨machine.fresh, given, ?_⟩
          unfold openFile? addOpenFile
          rw [List.lookup_cons, beq_self_eq_true]
        · have kept := writes id made obtained
          refine .inl ⟨?_, kept.opened, kept.known, kept.given⟩
          unfold addOpenFile Disk.truncate
          simp only
          rw [Disk.file?_updateFile, if_neg (Ne.symm same)]
          exact kept.content
      next =>
        cases opens

end Names

/-- A disk on which all files hold what they held. -/
structure SameContents (before after : Disk) : Prop where
  contents : ∀ id, (after.file? id).map File.content = (before.file? id).map File.content
  fresh : before.fresh ≤ after.fresh

namespace SameContents

variable {disk next : Disk} {start? : Option Path} {name other : Bytes}

theorem createDirectory
    (made : disk.createDirectory start? name = .ok next) :
    SameContents disk next := by
  unfold Disk.createDirectory at made
  split at made
  all_goals cases made
  exact ⟨fun _ => rfl, Nat.le_succ _⟩

theorem removeFile
    (removed : disk.removeFile start? name = .ok next) :
    SameContents disk next := by
  unfold Disk.removeFile at removed
  split at removed
  all_goals cases removed
  exact ⟨fun _ => rfl, Nat.le_refl _⟩

theorem removeDirectory
    (removed : disk.removeDirectory start? name = .ok next) :
    SameContents disk next := by
  unfold Disk.removeDirectory at removed
  repeat' split at removed
  all_goals cases removed
  exact ⟨fun _ => rfl, Nat.le_refl _⟩

theorem rename
    (renamed : disk.rename start? name other = .ok next) :
    SameContents disk next := by
  unfold Disk.rename at renamed
  repeat' split at renamed
  all_goals
    cases renamed
    try exact ⟨fun _ => rfl, Nat.le_refl _⟩

theorem link
    (linked : disk.link start? name other = .ok next) :
    SameContents disk next := by
  unfold Disk.link at linked
  repeat' split at linked
  all_goals cases linked
  exact ⟨fun _ => rfl, Nat.le_refl _⟩

theorem symbolicLink
    (linked : disk.symbolicLink start? name other = .ok next) :
    SameContents disk next := by
  unfold Disk.symbolicLink at linked
  repeat' split at linked
  all_goals cases linked
  exact ⟨fun _ => rfl, Nat.le_refl _⟩

theorem changeMode
    {mode : Nat}
    (changed : disk.changeMode start? name mode = .ok next) :
    SameContents disk next := by
  unfold Disk.changeMode at changed
  repeat' split at changed
  all_goals cases changed
  next id _ =>
    refine ⟨fun number => ?_, Nat.le_refl _⟩
    rw [Disk.file?_updateFile]
    split
    next same =>
      rw [same, Option.map_map]
      rfl
    next =>
      rfl
  next =>
    exact ⟨fun _ => rfl, Nat.le_refl _⟩

end SameContents

section Requests

variable {process : Process}

/-- What is asked of the disk is either refused, or leaves all files with what they hold. -/
theorem keeps_onDisk
    {result : Reply Disk}
    (same : ∀ {disk}, result = .ok disk → SameContents machine.disk disk) :
    Keeps output file machine (machine.onDisk result).2 := by
  cases result with
  | ok disk =>
      exact .withDisk ((same rfl).contents file) (same rfl).fresh
  | error error =>
      exact .refl machine

/-- Nothing is read through an open file that was emptied, and reading moves no other. -/
theorem keeps_readOpen
    {id limit : Nat}
    {answer : Reply Bytes × Machine}
    (opened : machine.openFile? output = some ⟨.file file, text.length, .truncate⟩)
    (reads : machine.readOpen id limit = some answer) :
    Keeps output file machine answer.2 := by
  unfold readOpen at reads
  by_cases same : id = output
  · subst same
    simp only [opened, decide_true, Bool.true_or, if_true] at reads
    cases reads
    exact .refl machine
  · simp only at reads
    repeat' split at reads
    all_goals cases reads
    all_goals
      dsimp only
      first
      | exact .of_same rfl rfl (Nat.le_refl _)
      | exact .updateOpenFile machine (Ne.symm same) _

/-- What is written through another open file goes to other files. -/
theorem keeps_writeOpen
    {id : Nat}
    {bytes : Bytes}
    {answer : Reply Unit × Bool × Machine}
    (only : machine.WrittenOnlyBy output file)
    (apart : id ≠ output)
    (writes : machine.writeOpen id bytes = some answer) :
    Keeps output file machine answer.2.2 := by
  unfold writeOpen at writes
  simp only at writes
  split at writes
  · cases writes
    exact .refl machine
  next opened isOpen =>
    split at writes
    next other stream =>
      split at writes
      · cases writes
        exact .refl machine
      next mode =>
        have elsewhere : file ≠ other := by
          rintro rfl
          exact apart (only id opened isOpen stream mode)
        have written (offset : Nat) :
            Keeps output file machine
              (machine.withDisk (machine.disk.writeAt other offset machine.seconds bytes)) := by
          refine .withDisk ?_ (Nat.le_refl _)
          unfold Disk.writeAt
          rw [Disk.file?_updateFile, if_neg elsewhere]
        cases writes
        dsimp only
        exact (written _).trans (.updateOpenFile _ (Ne.symm apart) _)
    · cases writes
      exact .refl machine
    · repeat' split at writes
      all_goals
        cases writes
        try exact .of_same rfl rfl (Nat.le_refl _)
    · cases writes
      exact .refl machine

/-- What is written through the open file of a text goes to the end of the text. -/
theorem Records.writeOpen
    {bytes : Bytes}
    {answer : Reply Unit × Bool × Machine}
    (records : Records output file text machine)
    (writes : machine.writeOpen output bytes = some answer) :
    Records output file (text ++ bytes) answer.2.2 := by
  obtain ⟨found, isThere, holds⟩ := records.holds
  unfold Machine.writeOpen at writes
  simp only [records.opened, reduceCtorEq, if_false] at writes
  cases writes
  refine ⟨?_, ?_, records.known, records.given⟩
  · unfold Disk.writeAt updateOpenFile
    simp only [Disk.file?_updateFile, if_true, isThere, Option.map_some]
    exact ⟨_, rfl, by simp [File.filledAt, File.bytes, holds]⟩
  · rw [openFile?_updateOpenFile, if_pos rfl]
    have opened := records.opened
    unfold openFile? at opened ⊢
    simp only [opened, Option.map_some, List.length_append]

/-- A pipe is opened under numbers of its own. -/
theorem keeps_addPipe (given : output < machine.fresh) :
    Keeps output file machine machine.addPipe.2 := by
  have first : Keeps output file machine
      { machine with
        pipes := (machine.fresh, []) :: machine.pipes, fresh := machine.fresh + 1 } :=
    .of_same rfl rfl (Nat.le_succ _)
  have second := first.trans (.addOpenFile _ (Nat.lt_succ_of_lt given)
    (.pipeEnd machine.fresh false) .update)
  exact second.trans (.addOpenFile _ (Nat.lt_succ_of_lt (Nat.lt_succ_of_lt given))
    (.pipeEnd machine.fresh true) .update)

/-- Asking for the end of a child touches no file. -/
theorem keeps_reap?
    {parent : Process}
    {child? : Option Nat}
    {answer : Reply (Nat × ExitStatus) × Machine}
    (reaps : machine.reap? parent child? = some answer) :
    Keeps output file machine answer.2 := by
  unfold reap? at reaps
  simp only at reaps
  repeat' split at reaps
  all_goals
    cases reaps
    try exact .of_same rfl rfl (Nat.le_refl _)

/-- Sending a signal touches no file. -/
theorem keeps_send (sender : Process) (target : Int) (number : Nat) :
    Keeps output file machine (machine.send sender target number).2 := by
  unfold send
  repeat' split
  all_goals exact .of_same rfl rfl (Nat.le_refl _)

/-- Whatever a process asks for without writing, the file stays as it is. -/
theorem Records.keeps_answer?
    {request : Request}
    {answer : Answered request}
    (records : Records output file text machine)
    (isSilent : ∀ descriptor bytes, request ≠ .write descriptor bytes)
    (answers : machine.answer? process request = some answer)
    (still : answer.2.WrittenOnlyBy output file) :
    Keeps output file machine answer.2 := by
  unfold Machine.answer? at answers
  cases request with
  | openFile path mode =>
      simp only at answers
      split at answers
      next id next opens =>
        cases answers
        rcases keeps_or_empties_of_openName records.known records.given opens with
          keeps | ⟨other, later, empties⟩
        · exact keeps.trans (.of_same rfl rfl (Nat.le_refl _))
        · exact absurd (still other _ empties rfl nofun) (Nat.ne_of_gt later)
      next =>
        cases answers
        exact .refl machine
  | openPipe =>
      cases answers
      exact (keeps_addPipe records.given).trans (.of_same rfl rfl (Nat.le_refl _))
  | read descriptor limit =>
      simp only at answers
      split at answers
      · exact keeps_readOpen records.opened answers
      · cases answers
        exact .refl machine
  | write descriptor bytes =>
      exact absurd rfl (isSilent descriptor bytes)
  | createDirectory path =>
      cases answers
      exact keeps_onDisk .createDirectory
  | removeFile path =>
      cases answers
      exact keeps_onDisk .removeFile
  | removeDirectory path =>
      cases answers
      exact keeps_onDisk .removeDirectory
  | rename source target =>
      cases answers
      exact keeps_onDisk .rename
  | link source target =>
      cases answers
      exact keeps_onDisk .link
  | symbolicLink target path =>
      cases answers
      exact keeps_onDisk .symbolicLink
  | changeMode path mode =>
      cases answers
      exact keeps_onDisk .changeMode
  | waitChild child? =>
      exact keeps_reap? answers
  | pollChild child =>
      simp only at answers
      split at answers
      next id status next reaps =>
        cases answers
        exact keeps_reap? reaps
      next =>
        cases answers
        exact .refl machine
  | signal target number =>
      cases answers
      exact keeps_send process target number
  | setDisposition number disposition =>
      cases answers
      simp only
      split <;> exact .of_same rfl rfl (Nat.le_refl _)
  | _ =>
      simp only at answers
      repeat' split at answers
      all_goals
        cases answers
        try exact .of_same rfl rfl (Nat.le_refl _)

/-- What a process writes stands in the file behind what it holds, if it is written through the open
file. -/
theorem Records.write
    {descriptor : Nat}
    {bytes : Bytes}
    {answer : Answered (.write descriptor bytes)}
    (records : Records output file text machine)
    (only : machine.WrittenOnlyBy output file)
    (answers : machine.answer? process (.write descriptor bytes) = some answer) :
    Records output file (text ++ saidBy output process (.write descriptor bytes)) answer.2 := by
  unfold Machine.answer? at answers
  simp only at answers
  simp only [saidBy]
  split at answers
  next id isOpen =>
    split at answers
    next reply isBroken next writes =>
      have follows : Keeps output file next answer.2 := by
        split at answers <;> cases answers <;> exact .of_same rfl rfl (Nat.le_refl _)
      by_cases same : id = output
      · subst same
        rw [if_pos isOpen]
        exact (records.writeOpen writes).keeps follows
      · have apart : process.openFile? descriptor ≠ some output := by
          rw [isOpen]
          exact fun equal => same (Option.some.inj equal)
        rw [if_neg apart, List.append_nil]
        exact records.keeps ((keeps_writeOpen only same writes).trans follows)
    next =>
      cases answers
  next closed =>
    have apart : process.openFile? descriptor ≠ some output := by
      rw [closed]
      exact nofun
    rw [if_neg apart, List.append_nil]
    cases answers
    exact records

/-- Whatever a process asks for, the file goes on to hold what is written through its open file, as
long as no other writes to it. -/
theorem Records.answer?
    {request : Request}
    {answer : Answered request}
    (records : Records output file text machine)
    (only : machine.WrittenOnlyBy output file)
    (answers : machine.answer? process request = some answer)
    (still : answer.2.WrittenOnlyBy output file) :
    Records output file (text ++ saidBy output process request) answer.2 := by
  cases request with
  | write descriptor bytes =>
      exact records.write only answers
  | _ =>
      simp only [saidBy, List.append_nil]
      refine records.keeps (records.keeps_answer? ?_ answers still)
      exact nofun

end Requests

/-- Whatever a process does, the file goes on to hold what is written through its open file, as long
as no other writes to it. -/
theorem Records.turn
    {id : Nat}
    (records : Records output file text machine)
    (only : machine.WrittenOnlyBy output file)
    (turns : machine.turn id = some next)
    (still : next.WrittenOnlyBy output file) :
    Records output file (text ++ machine.said output id) next := by
  unfold Machine.turn at turns
  unfold said
  split at turns
  · cases turns
  next process found =>
    simp only [found]
    have silent (keeps : Keeps output file machine next) :
        Records output file (text ++ []) next := by
      rw [List.append_nil]
      exact records.keeps keeps
    split at turns
    next code running =>
      cases turns
      simp only [running]
      exact silent (.of_same rfl rfl (Nat.le_refl _))
    next program goesOn running =>
      cases turns
      simp only [running]
      exact silent (.of_same rfl rfl (Nat.le_succ _))
    next path invocation goesOn running =>
      simp only [running, saidBy]
      split at turns
      all_goals
        cases turns
        exact silent (.of_same rfl rfl (Nat.le_refl _))
    next request goesOn running =>
      simp only [running]
      split at turns
      next answer after answers =>
        cases turns
        exact (records.answer? only answers still).keeps (.of_same rfl rfl (Nat.le_refl _))
      next =>
        cases turns
    next =>
      cases turns

end CompilePlayground.Posix.Machine
