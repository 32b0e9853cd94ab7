import CompilePlayground.Proofs.Service.Courses
import CompilePlayground.Proofs.Service.ExactlyOnce
import Mathlib.Data.List.Perm.Subperm

namespace CompilePlayground

open List Posix

/-!
# Jobs that go through the workers in turn

No more jobs are under way than there are workers, since each job that is under way occupies a
worker of its own. Jobs leave the queue in the order in which they came into it, and a worker is
done with one before it takes the next. Where there is but one worker, all that is done for a job
is done before anything is done for the next in the queue.
-/

namespace Deed

/-- The worker that is behind what is done, with the job that it is done for. -/
def work? : Deed → Option (Nat × Submission)
  | take index submission => some (index, submission)
  | compile index submission _ => some (index, submission)
  | finish index submission _ => some (index, submission)
  | _ => none

end Deed

/-- The process of the compiler that is waited for. -/
def Compilation.awaited? (compilation : Compilation) : Option Nat :=
  match compilation.stage with
  | .await process _ => some process
  | _ => none

namespace Deeds

/-- The jobs that were taken off the queue and that no worker is done with, each with its
worker. -/
def underway (deeds : Deeds) : List (Nat × Submission) :=
  deeds.taken.filter fun entry => entry ∉ deeds.finished

/-- The processes of the compilers that were started for jobs and are still waited for. -/
def awaited (deeds : Deeds) (host : Host) (settings : CompilerSettings) : List Nat :=
  deeds.taken.filterMap fun entry =>
    ((Compilation.begin settings entry.2.job).follow host
      (deeds.machinesFor entry.2.ticket)).bind Compilation.awaited?

/-- When anything is done for the second of two jobs, the first has come to its outcome and was
handed over, and nothing more is done for it. -/
def Precedes
    (deeds : Deeds)
    (host : Host)
    (settings : CompilerSettings)
    (first second : Submission) :
    Prop :=
  ∀ (before : Deeds) (deed : Deed) (after : Deeds) (index : Nat),
    deeds = before ++ deed :: after → deed.work? = some (index, second) →
      (∃ worker outcome, Deed.finish worker first outcome ∈ before ∧
        before.Compiled host settings first outcome) ∧
      ∀ later ∈ deed :: after, ∀ worker, later.work? ≠ some (worker, first)

theorem mem_taken
    {deeds : Deeds}
    {index : Nat}
    {submission : Submission} :
    (index, submission) ∈ deeds.taken ↔ Deed.take index submission ∈ deeds := by
  unfold taken
  rw [List.mem_filterMap]
  constructor
  · rintro ⟨deed, member, extracts⟩
    cases deed <;> simp only [Deed.taken?, reduceCtorEq, Option.some.injEq,
      Prod.mk.injEq] at extracts
    obtain ⟨rfl, rfl⟩ := extracts
    exact member
  · intro member
    exact ⟨_, member, rfl⟩

end Deeds

section Pairs

variable {α : Type} {first second : α} {front back : List α}

/-- What comes before an item of the front is in the front. -/
theorem pair_sublist_front
    (distinct : (front ++ back).Nodup)
    (inFront : second ∈ front)
    (ordered : [first, second] <+ front ++ back) :
    [first, second] <+ front := by
  have apart : second ∉ back := fun inBack =>
    (List.nodup_append.1 distinct).2.2 second inFront second inBack rfl
  obtain ⟨left, right, shape, leftFront, rightBack⟩ := List.sublist_append_iff.1 ordered
  match left with
  | [] =>
      rw [List.nil_append] at shape
      subst shape
      exact absurd (rightBack.subset (by simp)) apart
  | [_] =>
      cases shape
      exact absurd (rightBack.subset (by simp)) apart
  | [_, _] =>
      cases shape
      exact leftFront
  | _ :: _ :: _ :: _ =>
      cases shape

theorem pair_ne
    (distinct : front.Nodup)
    (ordered : [first, second] <+ front) :
    first ≠ second := by
  have pair := ordered.nodup distinct
  simpa using pair

end Pairs

namespace Books

variable {deeds before after : Deeds} {deed : Deed} {books next : Books} {index : Nat}
  {submission : Submission}

/-- A job that is under way is held by the worker that took it. -/
theorem Kept.holds_of_underway
    (laws : Kept deeds books)
    {entry : Nat × Submission}
    (underway : entry ∈ deeds.underway) :
    books.Holds entry.1 entry.2 := by
  obtain ⟨taken, unfinished⟩ := List.mem_filter.1 underway
  rcases laws.worked.placed entry.1 entry.2 taken with held | finished
  · exact held
  · simp [finished] at unfinished

/-- Every job that is under way occupies a worker. -/
theorem Kept.underway_length_le (laws : Kept deeds books) :
    deeds.underway.length ≤ books.seats.length := by
  have distinct : (deeds.underway.map Prod.fst).Nodup := by
    refine List.Nodup.map_on ?_ (laws.queued.taken_nodup.of_map.filter _)
    intro first firstUnderway second secondUnderway same
    have firstHeld := laws.holds_of_underway firstUnderway
    rw [same] at firstHeld
    exact Prod.ext same (Worked.holds_unique firstHeld (laws.holds_of_underway secondUnderway))
  have within : deeds.underway.map Prod.fst ⊆ List.range books.seats.length := by
    intro index listed
    obtain ⟨entry, underway, rfl⟩ := List.mem_map.1 listed
    obtain ⟨_, _, found, _⟩ := laws.holds_of_underway underway
    exact List.mem_range.2 (List.getElem?_eq_some_iff.1 found).1
  have fits := (List.subperm_of_subset distinct within).length_le
  rwa [List.length_map, List.length_range] at fits

/-- A compiler is waited for only while its job is under way. -/
theorem Kept.awaited_length_le (laws : Kept deeds books) :
    (deeds.awaited books.host books.settings).length ≤ deeds.underway.length := by
  have same : deeds.awaited books.host books.settings =
      deeds.underway.filterMap fun entry =>
        ((Compilation.begin books.settings entry.2.job).follow books.host
          (deeds.machinesFor entry.2.ticket)).bind Compilation.awaited? := by
    unfold Deeds.awaited Deeds.underway
    rw [List.filterMap_filter]
    apply List.filterMap_congr
    intro entry _
    split
    next =>
      rfl
    next finished =>
      rw [decide_eq_true_eq, not_not] at finished
      obtain ⟨outcome, finished⟩ := Deeds.mem_finished.1 finished
      obtain ⟨compilation, followed, ended⟩ := laws.worked.ended _ _ _ finished
      rw [followed, Option.bind_some]
      unfold Compilation.outcome? at ended
      unfold Compilation.awaited?
      split at ended
      next stage =>
        rw [stage]
      next =>
        cases ended
  rw [same]
  exact List.length_filterMap_le _ _

/-- No entry changes the number of workers. -/
theorem Entry.seats_length {more : Deeds} (entry : Entry books more next) :
    next.seats.length = books.seats.length := by
  cases entry with
  | discard index submission rest idle first =>
      obtain ⟨_, shape⟩ := deliver_eq { books with queue := rest } submission.ticket .nothing
      rw [shape]
  | finish index ticket duty compilation outcome busy ended =>
      obtain ⟨_, shape⟩ := deliver_eq (books.occupy index .idle) ticket
        (.report (Worker.report outcome))
      rw [shape]
      exact List.length_modify _ _ _
  | take | compile | stop =>
      exact List.length_modify _ _ _
  | _ =>
      rfl

/-- An entry is about one thing that is done, or about none. -/
theorem Entry.alone {more : Deeds} (entry : Entry books more next) :
    more = [] ∨ ∃ deed, more = [deed] := by
  cases entry with
  | respond | enlist | enqueue | take | compile | finish =>
      exact .inr ⟨_, rfl⟩
  | _ =>
      exact .inl rfl

/-- A worker that takes a job is there. -/
theorem Entry.index_lt
    (entry : Entry books [.take index submission] next) :
    index < books.seats.length := by
  cases entry with
  | take index submission rest idle first =>
      exact (List.getElem?_eq_some_iff.1 idle).1

/-- A worker that is behind what is done holds the job already, or is idle and takes it off the
queue at the moment. -/
theorem Entry.holds_or_takes
    (entry : Entry books [deed] next)
    (does : deed.work? = some (index, submission)) :
    books.Holds index submission ∨
      deed = .take index submission ∧ books.seats[index]? = some ⟨.compile, .idle⟩ ∧
        submission ∈ books.queue := by
  cases entry with
  | respond | enlist | enqueue =>
      cases does
  | take index submission rest idle first =>
      cases does
      exact .inr ⟨rfl, idle, by simp [first]⟩
  | compile index ticket duty compilation machine stepped busy step =>
      cases does
      exact .inl (Worked.holds_of_busy busy)
  | finish index ticket duty compilation outcome busy ended =>
      cases does
      exact .inl (Worked.holds_of_busy busy)

/-- What a worker is behind is done for a job that it has taken, or takes at the moment. -/
theorem Kept.taken_of_work
    (laws : Kept before books)
    (entry : Entry books [deed] next)
    (does : deed.work? = some (index, submission)) :
    (index, submission) ∈ Deeds.taken (before ++ [deed]) := by
  rw [Deeds.taken_append, List.mem_append]
  rcases entry.holds_or_takes does with holds | ⟨rfl, _⟩
  · exact .inl (laws.worked.held _ _ holds).1
  · exact .inr (by simp)

/-- Nothing is done for a job that a worker is done with. -/
theorem Kept.unfinished_of_work
    (laws : Kept before books)
    (entry : Entry books [deed] next)
    (does : deed.work? = some (index, submission)) :
    ∀ finished ∈ before.finished, finished.2.ticket ≠ submission.ticket := by
  rcases entry.holds_or_takes does with holds | ⟨_, _, queued⟩
  · exact (laws.worked.held _ _ holds).2
  · intro finished done
    exact laws.queued.ne_of_taken (laws.worked.finished finished done) queued

/-- A worker that does anything for a job is done with all others that it has taken. -/
theorem Kept.finished_of_work
    (laws : Kept before books)
    (entry : Entry books [deed] next)
    (does : deed.work? = some (index, submission))
    {other : Submission}
    (apart : other ≠ submission)
    (taken : (index, other) ∈ before.taken) :
    (index, other) ∈ before.finished := by
  refine (laws.worked.placed index other taken).resolve_left ?_
  intro held
  rcases entry.holds_or_takes does with holds | ⟨_, idle, _⟩
  · exact apart (Worked.holds_unique held holds)
  · obtain ⟨_, _, found, _⟩ := held
    rw [idle] at found
    cases found

end Books

namespace Service

/-- How jobs go through some number of workers. There is one worker even where none is asked
for. -/
structure InTurn
    (host : Host)
    (settings : CompilerSettings)
    (workers : Nat)
    (deeds : Deeds) :
    Prop where
  /-- No more jobs are between being taken and being handed over than there are workers. -/
  underway : deeds.underway.length ≤ max 1 workers
  /-- No more compilers have been started and are still waited for than there are workers. -/
  awaited : (deeds.awaited host settings).length ≤ max 1 workers
  /-- Jobs are taken in the order in which they were put into the queue. -/
  order : deeds.taken.map Prod.snd <+: deeds.enqueued
  /-- A worker does all that is to be done for a job before it turns to the next. -/
  each : ∀ index first second, [(index, first), (index, second)] <+ deeds.taken →
    deeds.Precedes host settings first second
  /-- All that is to be done for a job is done before anything is done for one that comes after
  it in the queue, if there is one worker. -/
  alone : workers ≤ 1 → ∀ first second, [first, second] <+ deeds.enqueued →
    deeds.Precedes host settings first second

section Launched

variable
  {host : Host}
  {settings : CompilerSettings}
  {pageName : Bytes}
  {rate? : Option Nat}
  {workers : Nat}
  {names : Nat → String}
  {machine : Machine}
  {course : List Occurrence}
  {service : Service}
  {before after : Deeds}
  {deed : Deed}

/-- Nothing that happens changes the number of workers. -/
theorem seats_length_of_course
    (run : (launch host settings pageName rate? workers machine names).undergo? course =
      some service) :
    service.seats.length = max 1 workers := by
  refine undergo?_induction (motive := fun _ service => service.seats.length = max 1 workers)
    ?_ ?_ run
  · exact (List.length_map _).trans List.length_replicate
  · intro course last occurrence next _ same made
    exact (entry_of_occur? made).seats_length.trans same

/-- Everything that is done on a course is an entry in the books as they are at the moment. -/
theorem exists_entry
    (run : (launch host settings pageName rate? workers machine names).undergo? course =
      some service)
    (split : (launch host settings pageName rate? workers machine names).account course =
      before ++ deed :: after) :
    ∃ books next, Books.Kept before books ∧ Books.Entry books [deed] next ∧
      books.host = host ∧ books.settings = settings ∧ books.seats.length = max 1 workers := by
  refine undergo?_induction
    (motive := fun course _ => ∀ after,
      (launch host settings pageName rate? workers machine names).account course =
        before ++ deed :: after →
      ∃ books next, Books.Kept before books ∧ Books.Entry books [deed] next ∧
        books.host = host ∧ books.settings = settings ∧ books.seats.length = max 1 workers)
    ?_ ?_ run after split
  · intro after split
    cases before <;> cases split
  · intro course last occurrence next run inductionHypothesis made after split
    have entry := entry_of_occur? made
    rw [account_snoc run made] at split
    rcases entry.alone with nothing | ⟨lastDeed, one⟩
    · rw [nothing, List.append_nil] at split
      exact inductionHypothesis after split
    · rw [one] at split entry
      cases after using List.reverseRecOn with
      | nil =>
          obtain ⟨same, lastSame⟩ := List.append_inj' split rfl
          cases lastSame
          obtain ⟨sameHost, sameSettings⟩ := settings_of_course run
          rw [← same]
          exact ⟨_, _, kept_of_course run, entry, sameHost, sameSettings,
            seats_length_of_course run⟩
      | append_singleton after ending =>
          rw [← List.cons_append, ← List.append_assoc] at split
          exact inductionHypothesis after (List.append_inj' split rfl).1

/-- What a worker has taken first is done with before it does anything for what it takes next. -/
theorem precedes_of_taken
    (run : (launch host settings pageName rate? workers machine names).undergo? course =
      some service)
    {index : Nat}
    {first second : Submission}
    (ordered : [(index, first), (index, second)] <+
      ((launch host settings pageName rate? workers machine names).account course).taken) :
    ((launch host settings pageName rate? workers machine names).account course).Precedes
      host settings first second := by
  intro before deed after worker split does
  obtain ⟨books, next, laws, entry, rfl, rfl, _⟩ := exists_entry run split
  have whole := (kept_of_course run).queued
  have distinct := whole.taken_nodup.of_map
  have taken := laws.taken_of_work entry does
  have shape : ((launch books.host books.settings pageName rate? workers machine names).account
      course).taken = Deeds.taken (before ++ [deed]) ++ Deeds.taken after := by
    rw [split, ← Deeds.taken_append, List.append_assoc, List.singleton_append]
  have same : worker = index := by
    have secondTaken : (worker, second) ∈
        ((launch books.host books.settings pageName rate? workers machine names).account
          course).taken := by
      rw [shape]
      exact List.mem_append_left _ taken
    exact congrArg Prod.fst
      (whole.taken_unique secondTaken
        (ordered.subset (List.mem_cons_of_mem _ List.mem_cons_self)) rfl)
  subst same
  have earlier : [(worker, first), (worker, second)] <+ Deeds.taken (before ++ [deed]) := by
    rw [shape] at ordered distinct
    exact pair_sublist_front distinct taken ordered
  have apart : first ≠ second := by
    rintro rfl
    exact pair_ne distinct ordered rfl
  have firstTaken : (worker, first) ∈ before.taken := by
    have member := earlier.subset (show (worker, first) ∈ _ by simp)
    rw [Deeds.mem_taken, List.mem_append, List.mem_singleton] at member
    rcases member with earlier | now
    · exact Deeds.mem_taken.2 earlier
    · rw [← now] at does
      cases does
      exact absurd rfl apart
  have finished := laws.finished_of_work entry does apart firstTaken
  obtain ⟨outcome, handed⟩ := Deeds.mem_finished.1 finished
  refine ⟨⟨worker, outcome, handed, laws.worked.ended _ _ _ handed⟩, ?_⟩
  intro later member other doesMore
  obtain ⟨front, back, cut⟩ := List.append_of_mem member
  rw [cut, ← List.append_assoc] at split
  obtain ⟨_, _, lawsLater, entryLater, _⟩ := exists_entry run split
  refine lawsLater.unfinished_of_work entryLater doesMore (worker, first) ?_ rfl
  rw [Deeds.finished_append]
  exact List.mem_append_left _ finished

/-- A single worker takes all jobs. -/
theorem taken_eq_map
    (run : (launch host settings pageName rate? workers machine names).undergo? course =
      some service)
    (single : workers ≤ 1) :
    (((launch host settings pageName rate? workers machine names).account course).taken.map
      Prod.snd).map (Prod.mk 0) =
        ((launch host settings pageName rate? workers machine names).account course).taken := by
  have zero : ∀ entry ∈
      ((launch host settings pageName rate? workers machine names).account course).taken,
        (Prod.mk 0 ∘ Prod.snd) entry = entry := by
    intro entry taken
    obtain ⟨before, after, split⟩ := List.append_of_mem (Deeds.mem_taken.1 taken)
    obtain ⟨books, next, _, entered, _, _, count⟩ := exists_entry run split
    have within := entered.index_lt
    have none : entry.1 = 0 := by
      omega
    exact Prod.ext none.symm rfl
  rw [List.map_map, List.map_congr_left zero]
  exact List.map_id _

/-- A single worker is done with a job before it does anything for one that comes after it in the
queue. -/
theorem precedes_of_enqueued
    (run : (launch host settings pageName rate? workers machine names).undergo? course =
      some service)
    (single : workers ≤ 1)
    {first second : Submission}
    (ordered : [first, second] <+
      ((launch host settings pageName rate? workers machine names).account course).enqueued) :
    ((launch host settings pageName rate? workers machine names).account course).Precedes
      host settings first second := by
  intro before deed after index split does
  obtain ⟨_, _, laws, entry, _⟩ := exists_entry run split
  have taken : (index, second) ∈
      ((launch host settings pageName rate? workers machine names).account course).taken := by
    rw [split, ← List.singleton_append, ← List.append_assoc, Deeds.taken_append]
    exact List.mem_append_left _ (laws.taken_of_work entry does)
  have inFront : [first, second] <+
      ((launch host settings pageName rate? workers machine names).account course).taken.map
        Prod.snd := by
    have queued := (kept_of_course run).queued
    have distinct := queued.distinct.of_map
    rw [queued.order] at ordered distinct
    exact pair_sublist_front distinct (List.mem_map_of_mem (f := Prod.snd) taken) ordered
  have pair := inFront.map (Prod.mk 0)
  rw [taken_eq_map run single] at pair
  exact precedes_of_taken run pair before deed after index split does

/-- Jobs go through the workers in turn, whatever else happens meanwhile. -/
theorem inTurn_of_course
    (run : (launch host settings pageName rate? workers machine names).undergo? course =
      some service) :
    InTurn host settings workers
      ((launch host settings pageName rate? workers machine names).account course) := by
  have laws := kept_of_course run
  obtain ⟨rfl, rfl⟩ := settings_of_course run
  have most := laws.underway_length_le
  have count : service.books.seats.length = max 1 workers := seats_length_of_course run
  rw [count] at most
  constructor
  case underway =>
    exact most
  case awaited =>
    exact Nat.le_trans laws.awaited_length_le most
  case order =>
    exact ⟨service.books.queue, laws.queued.order.symm⟩
  case each =>
    intro index first second ordered
    exact precedes_of_taken run ordered
  case alone =>
    intro single first second ordered
    exact precedes_of_enqueued run single ordered

end Launched

namespace Sample

/-- A service that is asked for no workers. -/
def unmanned : Service :=
  launch host settings [] none 0 machine

/-- Three clients send a source each. The one worker compiles the first, whose client is gone by
then, and waits for the compiler of the second. -/
def pressing : List Occurrence :=
  [.move (.receive (request [97])), .move (.receive (request [98])), .move (.attend 1),
      .move (.attend 0), .move (.leave 1)]
    ++ (compiling 0 1002).map .move
    ++ [.move (.receive (request [99])), .move (.attend 2), .change machine]
    ++ [.move (.work 0), .move (.work 0), .move (.work 0), .move (.work 0), .move (.work 0)]

end Sample

/-- A course with no workers asked for, on which one job is done with, one is under way and one
waits in the queue. -/
theorem inTurn_of_course_of_pressing :
    ∃ reached, Sample.unmanned.undergo? Sample.pressing = some reached ∧
      ((Sample.unmanned.account Sample.pressing).taken.map (·.2.ticket) = [1, 0] ∧
        (Sample.unmanned.account Sample.pressing).finished.map (·.2.ticket) = [1] ∧
        (Sample.unmanned.account Sample.pressing).awaited Sample.host Sample.settings = [1002]) ∧
      InTurn Sample.host Sample.settings 0 (Sample.unmanned.account Sample.pressing) := by
  have made : (Sample.unmanned.undergo? Sample.pressing).isSome = true := by
    decide +kernel
  obtain ⟨reached, run⟩ := Option.isSome_iff_exists.1 made
  exact ⟨reached, run, by decide +kernel, inTurn_of_course run⟩

end Service

end CompilePlayground
