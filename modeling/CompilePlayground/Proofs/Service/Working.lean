import CompilePlayground.Proofs.Service.Keeping

namespace CompilePlayground.Books

open Posix

/-!
# What workers are at

A worker that has taken a job holds it until it is done with it, and nobody else does. What it
holds is always the job brought further from its beginning, on the machines as they were found
at the steps that were made for it.
-/

variable {deeds more : Deeds} {books next : Books}

namespace Worked

/-- The job that a worker is at. -/
theorem holds_of_busy
    {index ticket : Nat}
    {duty : Duty}
    {compilation : Compilation}
    (busy : books.seats[index]? = some ⟨duty, .busy ticket compilation⟩) :
    books.Holds index ⟨ticket, compilation.job⟩ :=
  ⟨duty, compilation, busy, rfl⟩

/-- A worker holds one job at a time. -/
theorem holds_unique
    {index : Nat}
    {first second : Submission}
    (firstHeld : books.Holds index first)
    (secondHeld : books.Holds index second) :
    first = second := by
  obtain ⟨ticket, job⟩ := first
  obtain ⟨otherTicket, otherJob⟩ := second
  obtain ⟨_, _, found, rfl⟩ := firstHeld
  obtain ⟨_, _, again, rfl⟩ := secondHeld
  rw [found] at again
  cases again
  rfl

/-- Two workers hold jobs of different tickets. -/
theorem ticket_ne
    (law : Worked deeds books)
    (queued : Queued deeds books)
    {first second : Nat}
    {firstJob secondJob : Submission}
    (apart : first ≠ second)
    (firstHeld : books.Holds first firstJob)
    (secondHeld : books.Holds second secondJob) :
    firstJob.ticket ≠ secondJob.ticket := by
  intro same
  have one :=
    queued.taken_unique (law.held _ _ firstHeld).1 (law.held _ _ secondHeld).1 same
  exact apart (congrArg Prod.fst one)

/-- A worker that turns to something else does not touch what the others hold. -/
theorem holds_occupy_of_ne
    (books : Books)
    {index other : Nat}
    {occupation : Occupation}
    (apart : other ≠ index)
    {submission : Submission} :
    (books.occupy index occupation).Holds other submission ↔
      books.Holds other submission := by
  unfold Holds occupy
  simp only [List.getElem?_modify, Ne.symm apart, if_false, Option.map_eq_map,
    Option.map_id_fun', id_eq]

/-- The law stays when no worker does anything for a job. -/
theorem quiet
    (law : Worked deeds books)
    (idle : ∀ deed ∈ more, deed.isWork = false)
    (host : next.host = books.host)
    (settings : next.settings = books.settings)
    (busy : ∀ (index : Nat) (duty : Duty) (ticket : Nat) (compilation : Compilation),
      next.seats[index]? = some ⟨duty, .busy ticket compilation⟩ ↔
        books.seats[index]? = some ⟨duty, .busy ticket compilation⟩) :
    Worked (deeds ++ more) next := by
  have holds : ∀ index submission,
      next.Holds index submission ↔ books.Holds index submission := by
    intro index submission
    simp only [Holds, busy]
  have taken := Deeds.taken_eq_nil idle
  have finished := Deeds.finished_eq_nil idle
  have machines (ticket : Nat) :
      (deeds ++ more).machinesFor ticket = deeds.machinesFor ticket := by
    have none : more.machinesFor ticket = [] := by
      apply Deeds.machinesFor_eq_nil
      intro index submission machine member
      cases idle _ member
    rw [Deeds.machinesFor_append, none, List.append_nil]
  constructor
  case held =>
    intro index submission held
    rw [holds] at held
    simpa [taken, finished] using law.held index submission held
  case placed =>
    intro index submission was
    rw [Deeds.taken_append, taken, List.append_nil] at was
    rw [holds, Deeds.finished_append, finished, List.append_nil]
    exact law.placed index submission was
  case finished =>
    simpa [taken, finished] using law.finished
  case once =>
    simpa [finished] using law.once
  case begun =>
    intro index submission machine member
    rw [Deeds.taken_append, taken, List.append_nil]
    exact law.begun index submission machine (Deeds.mem_of_isWork idle rfl member)
  case followed =>
    intro index duty ticket compilation found
    rw [host, settings, machines]
    exact law.followed index duty ticket compilation ((busy _ _ _ _).1 found)
  case ended =>
    intro index submission outcome member
    rw [host, settings, machines]
    exact law.ended index submission outcome (Deeds.mem_of_isWork idle rfl member)

/-- The law stays when a worker takes the first job off the queue and begins with it. -/
theorem take
    (law : Worked deeds books)
    (queued : Queued deeds books)
    (index : Nat)
    (submission : Submission)
    (rest : List Submission)
    (idle : books.seats[index]? = some ⟨.compile, .idle⟩)
    (first : books.queue = submission :: rest) :
    Worked (deeds ++ [.take index submission])
      ({ books with queue := rest }.occupy index
        (.busy submission.ticket (.begin books.settings submission.job))) := by
  have waiting : submission ∈ books.queue := by
    rw [first]
    exact List.mem_cons_self
  have new (entry : Nat × Submission) (taken : entry ∈ deeds.taken) :
      entry.2.ticket ≠ submission.ticket :=
    queued.ne_of_taken taken waiting
  have notHeld (other : Submission) : ¬books.Holds index other := by
    rintro ⟨_, _, found, _⟩
    rw [idle] at found
    cases found
  have holdsHere (other : Submission)
      (held : ({ books with queue := rest }.occupy index (.busy submission.ticket
        (.begin books.settings submission.job))).Holds index other) :
      other = submission := by
    obtain ⟨ticket, job⟩ := other
    obtain ⟨_, _, found, rfl⟩ := held
    rcases seat_occupy found with ⟨apart, _⟩ | ⟨_, now, _⟩
    · exact absurd rfl apart
    · cases now
      rfl
  have holdsThere {other : Nat} (apart : other ≠ index) {held : Submission} :
      ({ books with queue := rest }.occupy index (.busy submission.ticket
        (.begin books.settings submission.job))).Holds other held ↔
          books.Holds other held :=
    holds_occupy_of_ne ({ books with queue := rest }) apart
  constructor
  case held =>
    intro other held holds
    simp only [Deeds.taken_append, Deeds.taken_singleton, Deed.taken?, Option.toList_some,
      Deeds.finished_append, Deeds.finished_singleton, Deed.finished?, Option.toList_none,
      List.append_nil]
    by_cases here : other = index
    · subst here
      rw [holdsHere held holds]
      refine ⟨List.mem_append_right _ (List.mem_singleton_self _), ?_⟩
      intro entry done
      exact new entry (law.finished entry done)
    · obtain ⟨was, open'⟩ := law.held other held ((holdsThere here).1 holds)
      exact ⟨List.mem_append_left _ was, open'⟩
  case placed =>
    intro other held was
    simp only [Deeds.taken_append, Deeds.taken_singleton, Deed.taken?, Option.toList_some,
      List.mem_append, List.mem_singleton] at was
    rw [Deeds.finished_append]
    rcases was with earlier | added
    · rcases law.placed other held earlier with holds | done
      · have apart : other ≠ index := by
          rintro rfl
          exact notHeld held holds
        exact .inl ((holdsThere apart).2 holds)
      · exact .inr (List.mem_append_left _ done)
    · cases added
      left
      refine ⟨.compile, .begin books.settings submission.job, ?_, rfl⟩
      simp [occupy, idle]
  case finished =>
    intro entry done
    rw [Deeds.taken_append]
    exact List.mem_append_left _ (law.finished entry (by simpa using done))
  case once =>
    simpa using law.once
  case begun =>
    intro other held machine member
    rw [Deeds.taken_append]
    exact List.mem_append_left _ (law.begun other held machine (by simpa using member))
  case followed =>
    intro other duty ticket compilation found
    simp only [Deeds.machinesFor_append, Deeds.machinesFor_singleton, Deed.machineFor?,
      Option.toList_none, List.append_nil]
    rcases seat_occupy found with ⟨_, before⟩ | ⟨_, now, _⟩
    · exact law.followed other duty ticket compilation before
    · cases now
      have none : deeds.machinesFor submission.ticket = [] := by
        apply Deeds.machinesFor_eq_nil
        intro other held machine member
        exact new (other, held) (law.begun other held machine member)
      rw [none]
      rfl
  case ended =>
    intro other held outcome member
    simp only [Deeds.machinesFor_append, Deeds.machinesFor_singleton, Deed.machineFor?,
      Option.toList_none, List.append_nil]
    exact law.ended other held outcome (by simpa using member)

/-- The law stays when a worker brings its job one step further. -/
theorem compile
    (law : Worked deeds books)
    (queued : Queued deeds books)
    (index ticket : Nat)
    (duty : Duty)
    (compilation : Compilation)
    (machine : Machine)
    (stepped : Stepped)
    (busy : books.seats[index]? = some ⟨duty, .busy ticket compilation⟩)
    (step : compilation.step books.host machine = some stepped) :
    Worked (deeds ++ [.compile index ⟨ticket, compilation.job⟩ machine])
      (books.occupy index (.busy ticket stepped.compilation)) := by
  obtain ⟨stage, keeps⟩ := Compilation.step_keeps step
  have sameJob : stepped.compilation.job = compilation.job := by
    rw [keeps]
    rfl
  have heldHere : books.Holds index ⟨ticket, compilation.job⟩ :=
    holds_of_busy busy
  have holds (other : Nat) (held : Submission) :
      (books.occupy index (.busy ticket stepped.compilation)).Holds other held ↔
        books.Holds other held := by
    by_cases here : other = index
    · subst here
      have now :
          (books.occupy other (.busy ticket stepped.compilation)).Holds other
            ⟨ticket, compilation.job⟩ := by
        refine ⟨duty, stepped.compilation, ?_, sameJob⟩
        simp [occupy, busy]
      constructor
      · intro holds
        rw [holds_unique holds now]
        exact heldHere
      · intro holds
        rw [holds_unique holds heldHere]
        exact now
    · exact holds_occupy_of_ne books here
  constructor
  case held =>
    intro other held isHeld
    rw [holds] at isHeld
    simpa using law.held other held isHeld
  case placed =>
    intro other held was
    rw [holds]
    simpa using law.placed other held (by simpa using was)
  case finished =>
    simpa using law.finished
  case once =>
    simpa using law.once
  case begun =>
    intro other held found member
    rw [List.mem_append, List.mem_singleton] at member
    simp only [Deeds.taken_append, Deeds.taken_singleton, Deed.taken?, Option.toList_none,
      List.append_nil]
    rcases member with earlier | added
    · exact law.begun other held found earlier
    · cases added
      exact (law.held _ _ heldHere).1
  case followed =>
    intro other otherDuty otherTicket otherCompilation found
    rcases seat_occupy found with ⟨apart, before⟩ | ⟨here, now, _⟩
    · have elsewhere : ticket ≠ otherTicket :=
        law.ticket_ne queued (Ne.symm apart) heldHere (holds_of_busy before)
      simp only [Deeds.machinesFor_append, Deeds.machinesFor_singleton, Deed.machineFor?,
        elsewhere, if_false, Option.toList_none, List.append_nil]
      exact law.followed other otherDuty otherTicket otherCompilation before
    · cases now
      have followed := law.followed index duty ticket compilation busy
      simp only [Deeds.machinesFor_append, Deeds.machinesFor_singleton, Deed.machineFor?,
        if_true, Option.toList_some, sameJob]
      exact Compilation.follow_snoc followed step
  case ended =>
    intro other held outcome member
    have done : Deed.finish other held outcome ∈ deeds := by
      simpa using member
    have elsewhere : ticket ≠ held.ticket :=
      ((law.held _ _ heldHere).2 _ (Deeds.mem_finished.2 ⟨outcome, done⟩)).symm
    simp only [Deeds.machinesFor_append, Deeds.machinesFor_singleton, Deed.machineFor?,
      elsewhere, if_false, Option.toList_none, List.append_nil]
    exact law.ended other held outcome done

/-- The law stays when a worker is done with its job. -/
theorem finish
    (law : Worked deeds books)
    (queued : Queued deeds books)
    (index ticket : Nat)
    (duty : Duty)
    (compilation : Compilation)
    (outcome : Outcome)
    (deliveries : List (Nat × Delivery))
    (busy : books.seats[index]? = some ⟨duty, .busy ticket compilation⟩)
    (ended : compilation.outcome? = some outcome) :
    Worked (deeds ++ [.finish index ⟨ticket, compilation.job⟩ outcome])
      { books.occupy index .idle with deliveries } := by
  have heldHere : books.Holds index ⟨ticket, compilation.job⟩ :=
    holds_of_busy busy
  obtain ⟨taken, unfinished⟩ := law.held _ _ heldHere
  have holdsHere (other : Submission) :
      ¬({ books.occupy index .idle with deliveries } : Books).Holds index other := by
    rintro ⟨_, _, found, _⟩
    rcases seat_occupy found with ⟨apart, _⟩ | ⟨_, now, _⟩
    · exact apart rfl
    · cases now
  have holdsThere {other : Nat} (apart : other ≠ index) {held : Submission} :
      ({ books.occupy index .idle with deliveries } : Books).Holds other held ↔
        books.Holds other held :=
    holds_occupy_of_ne books apart
  constructor
  case held =>
    intro other held holds
    by_cases here : other = index
    · subst here
      exact absurd holds (holdsHere held)
    · have before := (holdsThere here).1 holds
      obtain ⟨was, others⟩ := law.held other held before
      refine ⟨by simpa using was, ?_⟩
      intro entry done
      rw [Deeds.finished_append, List.mem_append] at done
      rcases done with earlier | added
      · exact others entry earlier
      · simp only [Deeds.finished_singleton, Deed.finished?, Option.toList_some,
          List.mem_singleton] at added
        subst added
        exact law.ticket_ne queued (Ne.symm here) heldHere before
  case placed =>
    intro other held was
    rw [Deeds.finished_append, List.mem_append]
    rcases law.placed other held (by simpa using was) with holds | done
    · by_cases here : other = index
      · subst here
        rw [holds_unique holds heldHere]
        exact .inr (.inr (by simp))
      · exact .inl ((holdsThere here).2 holds)
    · exact .inr (.inl done)
  case finished =>
    intro entry done
    rw [Deeds.finished_append, List.mem_append] at done
    rcases done with earlier | added
    · simpa using law.finished entry earlier
    · simp only [Deeds.finished_singleton, Deed.finished?, Option.toList_some,
        List.mem_singleton] at added
      subst added
      simpa using taken
  case once =>
    simp only [Deeds.finished_append, Deeds.finished_singleton, Deed.finished?,
      Option.toList_some, List.map_append, List.map_singleton]
    rw [List.nodup_append]
    refine ⟨law.once, List.nodup_singleton _, ?_⟩
    intro earlier listed added member
    obtain ⟨entry, done, rfl⟩ := List.mem_map.1 listed
    rw [List.mem_singleton] at member
    subst member
    exact unfinished entry done
  case begun =>
    intro other held machine member
    simpa using law.begun other held machine (by simpa using member)
  case followed =>
    intro other otherDuty otherTicket otherCompilation found
    simp only [Deeds.machinesFor_append, Deeds.machinesFor_singleton, Deed.machineFor?,
      Option.toList_none, List.append_nil]
    rcases seat_occupy found with ⟨_, before⟩ | ⟨_, now, _⟩
    · exact law.followed other otherDuty otherTicket otherCompilation before
    · cases now
  case ended =>
    intro other held result member
    simp only [Deeds.machinesFor_append, Deeds.machinesFor_singleton, Deed.machineFor?,
      Option.toList_none, List.append_nil]
    rw [List.mem_append, List.mem_singleton] at member
    rcases member with earlier | added
    · exact law.ended other held result earlier
    · cases added
      exact ⟨compilation, law.followed index duty ticket compilation busy, ended⟩

/-- The law is kept by every entry. -/
theorem entry
    (law : Worked deeds books)
    (queued : Queued deeds books)
    (staffed : Staffed books)
    (entry : Entry books more next) :
    Worked (deeds ++ more) next := by
  cases entry with
  | take index submission rest idle first =>
      exact law.take queued index submission rest idle first
  | discard index submission rest idle first =>
      have duty := staffed.duty _ (List.mem_of_getElem? idle)
      cases duty
  | compile index ticket duty compilation machine stepped busy step =>
      exact law.compile queued index ticket duty compilation machine stepped busy step
  | finish index ticket duty compilation outcome busy ended =>
      obtain ⟨deliveries, shape⟩ := deliver_eq (books.occupy index .idle)
        ticket (.report (Worker.report outcome))
      rw [shape]
      exact law.finish queued index ticket duty compilation outcome deliveries busy ended
  | stop index duty idle drained deserted =>
      refine law.quiet (by simp) rfl rfl ?_
      intro other otherDuty ticket compilation
      by_cases here : index = other
      · subst here
        simp [occupy, idle]
      · simp [occupy, here]
  | nothing | respond | enlist | reject | collect | tell | listen | leave | enqueue | close =>
      exact law.quiet (by simp) rfl rfl fun _ _ _ _ => Iff.rfl

end Worked

end CompilePlayground.Books
