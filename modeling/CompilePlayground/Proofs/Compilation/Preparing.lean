import CompilePlayground.Proofs.Compilation.Call
import CompilePlayground.Proofs.Posix.Filling
import CompilePlayground.Proofs.Posix.Recording

namespace CompilePlayground

open Posix

/-!
# What is prepared before the compiler is started

A call makes its directory, writes the source and opens the output, in this order, and starts the
compiler only after all of it was done. A `Course` is a run of a call on a machine whose processes
take their turns, as soon as nothing has to be prepared any more.
-/

namespace Stage

/-- Whether something has still to be done before the compiler runs. -/
def isPreparing : Stage → Bool
  | .makeDirectory | .writeSource | .openOutput | .launch _ => true
  | _ => false

/-- The outcome that is in hand. -/
def outcome? : Stage → Option Outcome
  | .clear outcome | .done outcome => some outcome
  | _ => none

end Stage

namespace Call

/-- What happens next to a call: it acts, and the system may refuse what it asks for, or a process
takes a turn, or time goes by. -/
inductive Move where
  | act (refused? : Option IoError)
  | turn (process : Nat)
  | wait (moment : Nat)

/-- A call, with what happens next to it. -/
structure Moment where
  call : Call
  move : Move

/-- One step of a course. Processes take turns once the compiler is started, for nothing else runs
on the machine of a call. -/
inductive Goes (host : Host) : Call → Move → Call → Prop where
  | act
      {call next : Call}
      (made : call.act? host = some next) :
      Goes host call (.act (call.compilation.refused? host call.machine)) next
  | refuse
      {call : Call}
      {cause : IoError}
      {left : Machine}
      {stepped : Stepped}
      (leaves : call.compilation.Leaves host call.machine left)
      (failed : call.compilation.fail cause left = some stepped) :
      Goes host call (.act (some cause)) ⟨stepped.compilation, stepped.machine, call.home?⟩
  | turn
      {call : Call}
      {process : Nat}
      {machine : Machine}
      (started : call.compilation.stage.isPreparing = false)
      (turns : call.machine.turn process = some machine) :
      Goes host call (.turn process) { call with machine }
  | wait
      (call : Call)
      (moment : Nat) :
      Goes host call (.wait moment)
        { call with machine := { call.machine with clock := max call.machine.clock moment } }

/-- A course, with all its moments. -/
inductive Course (host : Host) (first : Call) : List Moment → Call → Prop where
  | nil :
      Course host first [] first
  | snoc
      {history : List Moment}
      {call next : Call}
      {move : Move}
      (course : Course host first history call)
      (goes : Goes host call move next) :
      Course host first (history ++ [⟨call, move⟩]) next

/-- The stages that follow one another. -/
inductive Follows : Stage → Option IoError → Stage → Prop where
  | housed :
      Follows .makeDirectory none .writeSource
  | unhoused
      (cause : IoError) :
      Follows .makeDirectory (some cause) (.done (.error (.directory cause)))
  | written :
      Follows .writeSource none .openOutput
  | unwritten
      (cause : IoError) :
      Follows .writeSource (some cause) (.clear (.error (.source cause)))
  | opened
      (output : Nat) :
      Follows .openOutput none (.launch output)
  | unopened
      (cause : IoError) :
      Follows .openOutput (some cause) (.clear (.error (.output cause)))
  | launched
      (output process deadline : Nat) :
      Follows (.launch output) none (.await process deadline)
  | unlaunched
      (output : Nat)
      (cause : IoError) :
      Follows (.launch output) (some cause) (.clear (.error (.launch cause)))
  | ended
      (process deadline : Nat)
      (verdict : Verdict) :
      Follows (.await process deadline) none (.readOutput verdict)
  | lost
      (process deadline : Nat)
      (cause : IoError) :
      Follows (.await process deadline) (some cause) (.clear (.error (.wait cause)))
  | read
      (verdict : Verdict)
      (report : Report) :
      Follows (.readOutput verdict) none (.clear (.ok report))
  | unread
      (verdict : Verdict)
      (cause : IoError) :
      Follows (.readOutput verdict) (some cause) (.clear (.error (.output cause)))
  | cleared
      (outcome : Outcome)
      (refused? : Option IoError) :
      Follows (.clear outcome) refused? (.done outcome)

/-- A stage at which a call has acted, and what the system refused. -/
abbrev Attempt : Type := Stage × Option IoError

/-- All that is prepared for the compiler. -/
def preparations : List Attempt :=
  [(.makeDirectory, none), (.writeSource, none), (.openOutput, none)]

/-- What a call has tried whose directory is there, when something else could not be prepared. -/
inductive Refused : List Attempt → CompileFailure → Prop where
  | source
      (cause : IoError) :
      Refused [(.makeDirectory, none), (.writeSource, some cause)] (.source cause)
  | output
      (cause : IoError) :
      Refused [(.makeDirectory, none), (.writeSource, none), (.openOutput, some cause)]
        (.output cause)

/-- What a call has tried by each of its stages. -/
inductive Past : List Attempt → Stage → Prop where
  | begun :
      Past [] .makeDirectory
  | unhoused
      (cause : IoError) :
      Past [(.makeDirectory, some cause)] (.done (.error (.directory cause)))
  | housed :
      Past [(.makeDirectory, none)] .writeSource
  | written :
      Past [(.makeDirectory, none), (.writeSource, none)] .openOutput
  | opened
      (output : Nat) :
      Past preparations (.launch output)
  | refused
      {tried later : List Attempt}
      {failure : CompileFailure}
      {stage : Stage}
      (refused : Refused tried failure)
      (late : ∀ attempt ∈ later, attempt.1.isPreparing = false)
      (isOver : stage.outcome? = some (.error failure)) :
      Past (tried ++ later) stage
  | launched
      {output : Nat}
      {refused? : Option IoError}
      {later : List Attempt}
      {stage : Stage}
      (late : ∀ attempt ∈ later, attempt.1.isPreparing = false)
      (started : stage.isPreparing = false) :
      Past (preparations ++ (.launch output, refused?) :: later) stage

section Order

variable {host : Host} {first call next : Call} {history : List Moment} {move : Move}
  {tried later : List Attempt} {refused? : Option IoError} {stage following : Stage}

/-- A step of a course is one of the call, or it changes nothing but the machine. -/
theorem Goes.cases
    (goes : Goes host call move next) :
    (∃ refused?, move = .act refused? ∧ Acts host call refused? next) ∨
      ∃ machine, (∀ refused?, move ≠ .act refused?) ∧ next = { call with machine } := by
  cases goes with
  | act made =>
      exact .inl ⟨_, rfl, acts_of_act? made⟩
  | refuse leaves failed =>
      exact .inl ⟨_, rfl, .fails leaves failed⟩
  | turn =>
      exact .inr ⟨_, nofun, rfl⟩
  | wait =>
      exact .inr ⟨_, nofun, rfl⟩

/-- Nothing is prepared after the compiler was started. -/
theorem Follows.isPreparing_eq_false
    (follows : Follows stage refused? following)
    (started : stage.isPreparing = false) :
    following.isPreparing = false := by
  cases follows with
  | housed | unhoused | written | unwritten | opened | unopened | launched | unlaunched =>
      cases started
  | ended | lost | read | unread | cleared =>
      rfl

/-- An outcome in hand stays the outcome. -/
theorem Follows.outcome?_eq
    {outcome : Outcome}
    (follows : Follows stage refused? following)
    (isOver : stage.outcome? = some outcome) :
    stage.isPreparing = false ∧ following.outcome? = some outcome := by
  cases follows with
  | cleared =>
      exact ⟨rfl, isOver⟩
  | housed | unhoused | written | unwritten | opened | unopened | launched | unlaunched | ended
  | lost | read | unread =>
      cases isOver

/-- What is tried after all that is late is late as well. -/
private theorem late_append
    (late : ∀ attempt ∈ later, attempt.1.isPreparing = false)
    (started : stage.isPreparing = false)
    (refused? : Option IoError) :
    ∀ attempt ∈ later ++ [(stage, refused?)], attempt.1.isPreparing = false := by
  intro attempt isThere
  rcases List.mem_append.1 isThere with earlier | now
  · exact late attempt earlier
  · cases List.mem_singleton.1 now
    exact started

/-- What has been tried by a stage tells what has been tried by the one that follows. -/
theorem Past.follows
    (past : Past tried stage)
    (follows : Follows stage refused? following) :
    Past (tried ++ [(stage, refused?)]) following := by
  cases past with
  | begun =>
      cases follows with
      | housed =>
          exact .housed
      | unhoused cause =>
          exact .unhoused cause
  | unhoused =>
      cases follows
  | housed =>
      cases follows with
      | written =>
          exact .written
      | unwritten cause =>
          have refused : Past
              ([(.makeDirectory, none), (.writeSource, some cause)] ++ [])
              (.clear (.error (.source cause))) :=
            .refused (.source cause) (List.forall_mem_nil _) rfl
          exact refused
  | written =>
      cases follows with
      | opened output =>
          exact .opened output
      | unopened cause =>
          have refused : Past
              ([(.makeDirectory, none), (.writeSource, none), (.openOutput, some cause)] ++ [])
              (.clear (.error (.output cause))) :=
            .refused (.output cause) (List.forall_mem_nil _) rfl
          exact refused
  | opened output =>
      cases follows with
      | launched | unlaunched =>
          exact .launched (List.forall_mem_nil _) rfl
  | refused refused late isOver =>
      obtain ⟨started, stays⟩ := follows.outcome?_eq isOver
      rw [List.append_assoc]
      exact .refused refused (late_append late started refused?) stays
  | launched late started =>
      rw [List.append_assoc]
      exact .launched (late_append late started refused?) (follows.isPreparing_eq_false started)

end Order

end Call

end CompilePlayground
