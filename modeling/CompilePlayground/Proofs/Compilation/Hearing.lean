import CompilePlayground.Proofs.Compilation.Briefing
import CompilePlayground.Proofs.Compilation.CleanUp

namespace CompilePlayground.Call

open Posix

/-!
# What is heard of a compiler

The compiler is started when all is prepared for it. From then on the output holds what is written
to either of its descriptors, in the order of the turns in which that happens, as long as nobody
else touches the output, and this is what is read in the end.
-/

/-- What is written through an open file at a moment. -/
def Moment.said (output : Nat) (moment : Moment) : Bytes :=
  match moment.move with
  | .turn process => moment.call.machine.said output process
  | _ => []

section Hearing

variable {host : Host} {first call next : Call} {history : List Moment} {move : Move}
  {output file : Nat} {text : Bytes}

/-- What a file holds that is written to, as long as it is not yet read. -/
def Hears (output file : Nat) (text : Bytes) (call : Call) : Prop :=
  match call.compilation.stage with
  | .await _ _ | .readOutput _ => call.machine.Records output file text
  | .clear _ | .done _ => True
  | _ => False

/-- What happens next as it is told: the call acts, or a process takes a turn. -/
def play? (host : Host) (call : Call) : Option Nat → Option (Move × Call)
  | none =>
    (call.act? host).map fun next =>
      (.act (call.compilation.refused? host call.machine), next)
  | some process =>
    if call.compilation.stage.isPreparing then none
    else (call.machine.turn process).map fun machine => (.turn process, { call with machine })

/-- What happens as it is told, up to where it cannot. -/
def plays (host : Host) : List (Option Nat) → Call → List Moment × Call
  | [], call => ([], call)
  | cue :: rest, call =>
    match call.play? host cue with
    | none => ([], call)
    | some (move, next) =>
      let (history, last) := plays host rest next
      (⟨call, move⟩ :: history, last)

/-- What happens as it is told makes a step of a course. -/
theorem goes_of_play?
    {cue : Option Nat}
    (plays : call.play? host cue = some (move, next)) :
    Goes host call move next := by
  unfold play? at plays
  cases cue with
  | none =>
      obtain ⟨_, made, same⟩ := Option.map_eq_some_iff.1 plays
      cases same
      exact .act made
  | some process =>
      simp only at plays
      split at plays
      · cases plays
      next started =>
        obtain ⟨_, turns, same⟩ := Option.map_eq_some_iff.1 plays
        cases same
        exact .turn (by simpa using started) turns

/-- What happens as it is told makes a course. -/
theorem Course.plays
    (course : Course host first history call)
    (cues : List (Option Nat)) :
    Course host first (history ++ (call.plays host cues).1) (call.plays host cues).2 := by
  induction cues generalizing history call with
  | nil =>
      simpa [Call.plays] using course
  | cons cue rest inductionHypothesis =>
      unfold Call.plays
      split
      · simpa using course
      next move next played =>
        simpa using inductionHypothesis (course.snoc (goes_of_play? played))

end Hearing

namespace Sample

/-- A compiler that splits. Both of its processes have something to say. -/
def talker : Program :=
  .call (.write 2 (bytes "one ")) fun _ =>
    .split (.call (.write 1 (bytes "two ")) fun _ => .exit 0) fun _ =>
      .call (.write 2 (bytes "three")) fun _ => .exit 0

/-- A disk with the compiler. -/
def manned : Disk :=
  (furnished.addFile [bytes "c"]
    { content := .program fun _ => talker, mode := 0o755, modified := 0 }).2

/-- The directory of the job. -/
def home : Path :=
  [bytes "w", bytes job.id]

/-- A directory of the job that was there before. -/
def housed : Disk :=
  manned.addDirectory home

/-- A program that has the name of the source in the directory. -/
def overwritten : Disk :=
  (housed.addFile (home ++ [bytes "main.cpp"])
    { content := .program fun _ => .exit 1, mode := 0o700, modified := 0 }).2

/-- A file that has the name of the output in the directory. -/
def outputting (content : Content) : Disk :=
  (overwritten.addFile (home ++ [bytes "output"]) { content, mode := 0o600, modified := 0 }).2

/-- Another output in the directory. -/
def stale : Disk :=
  outputting (.bytes (bytes "something else that was said before"))

/-- A call that is about to start the compiler. -/
def ready : List Moment × Call :=
  (begin settings job (.ofDisk stale)).plays host [none, none, none]

/-- The call when the compiler is started. -/
def begun : Call :=
  (ready.2.plays host [none]).2

/-- The call when both processes of the compiler have said what they have to say. -/
def heard : List Moment × Call :=
  begun.plays host [some 1002, some 1002, some 1003, some 1002, some 1002, none]

/-- The disk is in order when the source was overwritten, and there are no links and no devices in
the directory of the job. -/
theorem ordered_overwritten :
    overwritten.Sound ∧ overwritten.Charted ∧ overwritten.Ordinary home := by
  have sound : manned.Sound := sound.congr (fun _ => rfl) (Nat.le_refl _)
  have first : (Disk.empty.addDirectory [bytes "w"]).Charted :=
    Disk.Charted.of_empty.addDirectory (by decide)
  have second : bare.Charted := first.addDirectory (by decide)
  have charted : manned.Charted := (second.addFile (by decide) _).addFile (by decide) _
  have vacant : manned.node? home = none := by
    rfl
  have parent : manned.node? [bytes "w"] = some (.directory 1) := by
    rfl
  have roomier : Disk.Roomier manned housed := (Disk.Roomier.refl sound charted).addDirectory parent
  have isThere : housed.node? home = some (.directory 5) := by
    rfl
  have written : Disk.Fills (home ++ [bytes "main.cpp"]) 6 (· ≠ .void) housed overwritten :=
    .of_addFile roomier.sound roomier.charted isThere rfl nofun
  have ordinary : overwritten.Ordinary home :=
    written.ordinary (absurd rfl) roomier.sound (roomier.ordinary (.of_vacant sound vacant))
  exact ⟨written.sound, written.charted, ordinary⟩

/-- A file comes to have the name of the output. -/
theorem fills_outputting (content : Content) :
    Disk.Fills (home ++ [bytes "output"]) 7 (· = content) overwritten (outputting content) := by
  have isThere : overwritten.node? home = some (.directory 5) := by
    rfl
  exact .of_addFile ordered_overwritten.1 ordered_overwritten.2.1 isThere rfl rfl

/-- The directory of the job is there already. -/
theorem eq_home
    {content : Content}
    {made : Disk}
    {other : Path}
    (makes : (outputting content).createDirectories (some host.directory)
      (Compilation.begin settings job).directory = .ok made)
    (enters : made.Enters host.directory (Compilation.begin settings job).directory other) :
    made = outputting content ∧ other = home := by
  have found : (outputting content).find (some host.directory) true
      (Compilation.begin settings job).directory = .ok (home, .directory 5) :=
    rfl
  rw [Disk.createDirectories_of_isDirectory
    (Disk.isDirectory_eq_true.2 ⟨home, 5, found⟩)] at makes
  cases makes
  exact ⟨rfl, (Disk.enters_of_find found).eq enters⟩

/-- A job can be done on the disk, whatever was in its directory. -/
theorem admits : Compilation.Admits host (Compilation.begin settings job).directory stale := by
  have opened := fills_outputting (.bytes (bytes "something else that was said before"))
  refine ⟨opened.sound, opened.charted, fun made other makes enters => ?_⟩
  obtain ⟨rfl, rfl⟩ := eq_home makes enters
  exact opened.ordinary nofun ordered_overwritten.1 ordered_overwritten.2.2

end Sample

namespace Sample

end Sample

end CompilePlayground.Call
