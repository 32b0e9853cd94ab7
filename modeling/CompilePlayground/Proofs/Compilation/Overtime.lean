import CompilePlayground.Proofs.Compilation.CleanUp
import CompilePlayground.Proofs.Compilation.Milestones

namespace CompilePlayground

open Posix

/-!
# What is told of a job that took too long

All that the compiler had written when its time was over is told, and behind it a line that says
so. The line stands for itself: where what was written ends within a line, that line is ended
first. So the text tells what was written, but for a line feed at its end.
-/

namespace Time

theorem newline_not_mem_toDigits (count : Nat) : '\n' ∉ Nat.toDigits 10 count := by
  intro member
  have digit := Nat.isDigit_of_mem_toDigits (by decide) (by decide) member
  revert digit
  decide

theorem newline_not_mem_fractionDigits (places count : Nat) :
    '\n' ∉ fractionDigits places count := by
  intro member
  have padded := (List.dropWhile_suffix _).subset (List.mem_reverse.1 member)
  rcases List.mem_append.1 (List.mem_reverse.1 padded) with zero | digit
  · cases List.eq_of_mem_replicate zero
  · exact newline_not_mem_toDigits count digit

theorem newline_not_mem_writeDecimal (places count : Nat) :
    '\n' ∉ (writeDecimal places count).toList := by
  unfold writeDecimal
  simp only
  split
  · rw [Nat.toString_eq_ofList_toDigits, String.toList_ofList]
    exact newline_not_mem_toDigits _
  · simp only [String.toList_append, List.mem_append, not_or]
    refine ⟨⟨?_, by decide⟩, ?_⟩
    · rw [Nat.toString_eq_ofList_toDigits, String.toList_ofList]
      exact newline_not_mem_toDigits _
    · rw [String.toList_ofList]
      exact newline_not_mem_fractionDigits _ _

/-- A span is written within a line. -/
theorem Span.newline_not_mem_write (span : Span) : '\n' ∉ span.write.toList := by
  have sign : '\n' ∉ span.unit.sign.toList := by
    unfold Span.unit
    split
    · decide
    · split
      · decide
      · split <;> decide
  unfold Span.write
  rw [String.toList_append, List.mem_append, not_or]
  exact ⟨newline_not_mem_writeDecimal _ _, sign⟩

end Time

namespace Text

/-- The last line of a text is ended. -/
def EndsLine (text : String) : Prop :=
  ∃ before, text = before ++ "\n"

theorem endsLine_iff {text : String} : EndsLine text ↔ text.endsWith "\n" = true := by
  rw [← String.endsWith_toSlice, String.Slice.endsWith_string_iff, String.copy_toSlice]
  constructor
  · rintro ⟨before, rfl⟩
    rw [String.toList_append]
    exact List.suffix_append _ _
  · rintro ⟨before, same⟩
    refine ⟨String.ofList before, ?_⟩
    rw [← String.toList_inj, String.toList_append, String.toList_ofList]
    exact same.symm

/-- Two texts are the same, but for a line feed at the end of one. -/
def SameButEnd (first second : String) : Prop :=
  first = second ∨ first = second ++ "\n" ∨ second = first ++ "\n"

end Text

/-- How a text goes on where something was captured: with the words in a line of their own, which
is the last one. -/
structure ClosesWith (words captured text : String) : Prop where
  /-- What is between what was captured and the line ends a line that is not ended yet, and is
  nothing else. -/
  shape : ∃ gap, text = captured ++ gap ++ (words ++ "\n") ∧
    (gap = "" ∨ gap = "\n") ∧
    (gap = "\n" ↔ captured ≠ "" ∧ ¬Text.EndsLine captured) ∧
    (captured ++ gap = "" ∨ Text.EndsLine (captured ++ gap))
  /-- The words take one line. -/
  plain : '\n' ∉ words.toList

namespace Compilation

/-- The words of the line that ends the output of a job that took too long. -/
def timeoutWords (timeout : Time.Span) : String :=
  "Compilation timed out after " ++ timeout.write

/-- What stands between what was captured and a line of its own. -/
def lineGap (captured : String) : String :=
  if captured = "" || captured.endsWith "\n" then "" else "\n"

theorem newline_not_mem_timeoutWords (timeout : Time.Span) :
    '\n' ∉ (timeoutWords timeout).toList := by
  have start : '\n' ∉ "Compilation timed out after ".toList := by
    simp
  unfold timeoutWords
  rw [String.toList_append]
  intro member
  rcases List.mem_append.1 member with first | written
  · exact start first
  · exact timeout.newline_not_mem_write written

theorem lineGap_eq_newline_iff {captured : String} :
    lineGap captured = "\n" ↔ captured ≠ "" ∧ ¬Text.EndsLine captured := by
  rw [Text.endsLine_iff]
  unfold lineGap
  by_cases empty : captured = "" <;> cases ends : captured.endsWith "\n" <;> simp [empty]

theorem lineGap_cases (captured : String) : lineGap captured = "" ∨ lineGap captured = "\n" := by
  unfold lineGap
  split
  · exact .inl rfl
  · exact .inr rfl

/-- What follows on the gap begins a line. -/
theorem beginsLine_lineGap (captured : String) :
    captured ++ lineGap captured = "" ∨ Text.EndsLine (captured ++ lineGap captured) := by
  rcases lineGap_cases captured with none | newline
  · have ended : captured = "" ∨ Text.EndsLine captured := by
      by_contra within
      rw [not_or] at within
      rw [lineGap_eq_newline_iff.2 within] at none
      simp at none
    rw [none, String.append_empty]
    exact ended
  · rw [newline]
    exact .inr ⟨captured, rfl⟩

/-- What was captured is told first, then the line about the time. -/
theorem outputText_timedOut (timeout : Time.Span) (bytes : Bytes) :
    outputText timeout .timedOut bytes =
      Text.Utf8.decodeLossy bytes ++ lineGap (Text.Utf8.decodeLossy bytes) ++
        (timeoutWords timeout ++ "\n") := by
  unfold outputText lineGap
  simp only
  split
  · rw [String.append_empty]
    rfl
  · rfl

theorem closesWith_outputText (timeout : Time.Span) (bytes : Bytes) :
    ClosesWith (timeoutWords timeout) (Text.Utf8.decodeLossy bytes)
      (outputText timeout .timedOut bytes) where
  shape := ⟨lineGap _, outputText_timedOut timeout bytes, lineGap_cases _, lineGap_eq_newline_iff,
    beginsLine_lineGap _⟩
  plain := newline_not_mem_timeoutWords timeout

/-- The line about the time takes nothing from what was captured but a line feed at its end. -/
theorem sameButEnd_of_outputText_eq
    {timeout : Time.Span}
    {bytes other : Bytes}
    (same : outputText timeout .timedOut bytes = outputText timeout .timedOut other) :
    Text.SameButEnd (Text.Utf8.decodeLossy bytes) (Text.Utf8.decodeLossy other) := by
  rw [outputText_timedOut, outputText_timedOut, String.append_left_inj] at same
  rcases lineGap_cases (Text.Utf8.decodeLossy bytes) with first | first <;>
    rcases lineGap_cases (Text.Utf8.decodeLossy other) with second | second <;>
    rw [first, second] at same
  · rw [String.append_empty, String.append_empty] at same
    exact .inl same
  · rw [String.append_empty] at same
    exact .inr (.inl same)
  · rw [String.append_empty] at same
    exact .inr (.inr same.symm)
  · rw [String.append_left_inj] at same
    exact .inl same

end Compilation

/-- What the outcome of a job tells of what the compiler has written. -/
structure Worded
    (timeout : Time.Span)
    (milestones : List Milestone)
    (outcome : Outcome) :
    Prop where
  /-- What was read is told, with a line about the time if that was over, and else alone. -/
  told : ∀ bytes, .read bytes ∈ milestones → ∃ report, outcome = .ok report ∧
    (.overdue ∈ milestones →
      report.verdict = .timedOut ∧
        ClosesWith (Compilation.timeoutWords timeout) (Text.Utf8.decodeLossy bytes)
          report.output) ∧
    (.overdue ∉ milestones →
      report.verdict ≠ .timedOut ∧ report.output = Text.Utf8.decodeLossy bytes)
  /-- Nothing else is reported about. -/
  read : ∀ report, outcome = .ok report → ∃ bytes, .read bytes ∈ milestones
  /-- Of another job whose time was over, and of which the same is told, the same was read but for
  a line feed at the end. -/
  apart : ∀ (report other : Report) (others : List Milestone),
    outcome = .ok report → Tale timeout others (.ok other) →
      report.verdict = .timedOut → other.verdict = .timedOut → report.output = other.output →
        ∀ bytes also, .read bytes ∈ milestones → .read also ∈ others →
          Text.SameButEnd (Text.Utf8.decodeLossy bytes) (Text.Utf8.decodeLossy also)

namespace Tale

variable {timeout : Time.Span} {milestones : List Milestone} {report : Report}

/-- A report about a job whose time was over tells what was read, and the time. -/
theorem output_of_timedOut
    {bytes : Bytes}
    (tale : Tale timeout milestones (.ok report))
    (late : report.verdict = .timedOut)
    (read : .read bytes ∈ milestones) :
    report.output = Compilation.outputText timeout .timedOut bytes := by
  cases tale with
  | ended process status =>
      rcases status with (_ | code) | number <;> cases late
  | killed process captured =>
      simp only [List.mem_cons, reduceCtorEq, Milestone.read.injEq, List.not_mem_nil, or_false,
        false_or] at read
      rw [read]

/-- Every tale is worded so that what was read can be told from it. -/
theorem worded {outcome : Outcome} (tale : Tale timeout milestones outcome) :
    Worded timeout milestones outcome where
  told bytes read := by
    cases tale with
    | ended process status captured =>
        simp only [List.mem_cons, reduceCtorEq, Milestone.read.injEq, List.not_mem_nil, or_false,
          false_or] at read
        subst read
        refine ⟨_, rfl, ?_, ?_⟩
        · intro late
          simp at late
        · intro _
          rcases status with (_ | code) | number
          all_goals
            refine ⟨?_, rfl⟩
            intro late
            cases late
    | killed process captured =>
        simp only [List.mem_cons, reduceCtorEq, Milestone.read.injEq, List.not_mem_nil, or_false,
          false_or] at read
        subst read
        refine ⟨_, rfl, ?_, ?_⟩
        · intro _
          exact ⟨rfl, Compilation.closesWith_outputText timeout bytes⟩
        · intro inTime
          simp at inTime
    | unstarted | unawaited | endedUnread | killedUnread =>
        simp at read
  read report reported := by
    cases tale with
    | ended process status captured | killed process captured =>
        exact ⟨captured, by simp⟩
    | unstarted | unawaited | endedUnread | killedUnread =>
        cases reported
  apart report other others reported tale' late lateToo same bytes also read readToo := by
    subst reported
    rw [tale.output_of_timedOut late read, tale'.output_of_timedOut lateToo readToo] at same
    exact Compilation.sameButEnd_of_outputText_eq same

end Tale

namespace Compilation

/-- Whatever the compiler of a job has written until its time was over, and whatever the time, the
outcome of the job tells all of it. -/
theorem worded_of_follow
    {host : Host}
    {settings : CompilerSettings}
    {job : Job}
    {machines : List Machine}
    {current : Compilation}
    {outcome : Outcome}
    (followed : (begin settings job).follow host machines = some current)
    (ended : current.outcome? = some outcome) :
    Worded settings.timeout (milestones host (begin settings job) machines) outcome :=
  (tale_of_follow followed ended).worded

end Compilation

namespace Call.Sample

/-- A compiler that has written part of a character when it goes to sleep. -/
def drowsy : Program :=
  .call (.write 1 [99, 97, 102, 0xC3]) fun _ => .call (.sleepUntil 3600000000000) fun _ => .exit 0

/-- A machine with that compiler. -/
def drowsing : Machine :=
  .ofDisk (furnished.addFile [bytes "c"]
    { content := .program fun _ => drowsy, mode := 0o755, modified := 0 }).2

/-- A call before each of its first steps, when nothing else happens. -/
def callsOf (call : Call) (count : Nat) : List Call :=
  (List.range count).map fun steps => (call.actsWithin host steps).2

/-- A call that has started the compiler. -/
def waiting : Call :=
  ((begin settings job drowsing).actsWithin host 4).2

/-- The call when the compiler has gone to sleep and its time is over. -/
def late : Call :=
  { waiting with
    machine := { (waiting.machine.turn 1002).getD waiting.machine with clock := 1000000000 } }

/-- The machines that the job is brought further on. -/
def lateMachines : List Machine :=
  (callsOf (begin settings job drowsing) 4 ++ callsOf late 3).map Call.machine

end Call.Sample

/-- A job whose compiler had written part of a character when its time was over. -/
theorem Compilation.worded_of_follow_of_drowsy :
    ∃ machines current report,
      (begin Call.Sample.settings Call.Sample.job).follow Call.Sample.host machines =
          some current ∧
        current.outcome? = some (.ok report) ∧
        report.output = "caf\uFFFD\nCompilation timed out after 1s\n" ∧
        .overdue ∈ milestones Call.Sample.host (begin Call.Sample.settings Call.Sample.job)
          machines ∧
        Worded Call.Sample.settings.timeout
          (milestones Call.Sample.host (begin Call.Sample.settings Call.Sample.job) machines)
          (.ok report) := by
  have made : (((begin Call.Sample.settings Call.Sample.job).follow Call.Sample.host
      Call.Sample.lateMachines).bind outcome?).bind Except.toOption =
        some ⟨.timedOut, "caf\uFFFD\nCompilation timed out after 1s\n"⟩ := by
    decide +kernel
  have late : .overdue ∈ milestones Call.Sample.host
      (begin Call.Sample.settings Call.Sample.job) Call.Sample.lateMachines := by
    decide +kernel
  obtain ⟨outcome, done, told⟩ := Option.bind_eq_some_iff.1 made
  obtain ⟨current, followed, ended⟩ := Option.bind_eq_some_iff.1 done
  cases outcome with
  | error failure =>
      cases told
  | ok report =>
      cases told
      exact ⟨_, current, _, followed, ended, rfl, late, worded_of_follow followed ended⟩

end CompilePlayground
