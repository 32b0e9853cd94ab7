import CompilePlayground.Proofs.Service.Metering

namespace CompilePlayground

open Network Posix

/-!
# Rates and the limits that they ask for

A rate is a word of 64 bits. It asks for a limit of as many requests at once, narrowed to a word
of 32 bits, and of whole nanoseconds between them. A rate of more than one request each nanosecond
leaves no time between them: no limit is set up then, and that is said. Otherwise what a client
has got through and what is left of its allowance make up the burst, as long as the clock stands
still.
-/

namespace Quota

/-- A word of 64 bits as one of 32 bits, or the greatest of these where it is too large. -/
def narrow (word : UInt64) : UInt32 :=
  if word ≤ 4294967295 then word.toUInt32 else 4294967295

/-- The quota of a rate, worked out in words. -/
def ofWord? (rate : UInt64) : Option Quota :=
  if rate = 0 then none
  else
    let period : UInt64 := 1000000000 / rate
    let burst := narrow rate
    if period = 0 || burst = 0 then none else some ⟨burst.toNat, period.toNat⟩

theorem toNat_narrow (word : UInt64) : (narrow word).toNat = min word.toNat burstLimit := by
  have limit : word ≤ 4294967295 ↔ word.toNat ≤ burstLimit :=
    UInt64.le_iff_toNat_le
  unfold narrow
  split
  next small =>
    rw [limit] at small
    rw [UInt64.toNat_toUInt32, Nat.min_eq_left small]
    refine Nat.mod_eq_of_lt ?_
    unfold burstLimit at small
    omega
  next large =>
    rw [limit, Nat.not_le] at large
    rw [Nat.min_eq_right (Nat.le_of_lt large)]
    rfl

/-- Nothing is lost by working in words. -/
theorem ofWord?_eq (rate : UInt64) : ofWord? rate = ofRate? rate.toNat := by
  have zero : rate = 0 ↔ rate.toNat = 0 :=
    UInt64.toNat_inj.symm
  have period : (1000000000 / rate).toNat = second / rate.toNat :=
    UInt64.toNat_div _ _
  have noPeriod : 1000000000 / rate = 0 ↔ second / rate.toNat = 0 := by
    rw [← period]
    exact UInt64.toNat_inj.symm
  have noBurst : narrow rate = 0 ↔ min rate.toNat burstLimit = 0 := by
    rw [← toNat_narrow]
    exact UInt32.toNat_inj.symm
  simp only [ofWord?, ofRate?, zero, noPeriod, noBurst, toNat_narrow, period]

/-- A rate of at most one request each nanosecond has a quota. -/
theorem ofWord?_of_le
    {rate : UInt64}
    (positive : 0 < rate)
    (bounded : rate ≤ 1000000000) :
    ofWord? rate = some ⟨rate.toNat, 1000000000 / rate.toNat⟩ := by
  rw [ofWord?_eq]
  exact ofRate?_eq (UInt64.lt_iff_toNat_lt.1 positive) (UInt64.le_iff_toNat_le.1 bounded)

/-- A rate of more than one request each nanosecond has no quota. -/
theorem ofWord?_of_lt {rate : UInt64} (large : 1000000000 < rate) : ofWord? rate = none := by
  have period : second / rate.toNat = 0 :=
    Nat.div_eq_of_lt (UInt64.lt_iff_toNat_lt.1 large)
  rw [ofWord?_eq]
  simp [ofRate?, period]

/-- The period of a rate of at most one request each nanosecond takes some time. -/
theorem period_pos
    {rate : UInt64}
    (positive : 0 < rate)
    (bounded : rate ≤ 1000000000) :
    0 < 1000000000 / rate.toNat :=
  Nat.div_pos (UInt64.le_iff_toNat_le.1 bounded) (UInt64.lt_iff_toNat_lt.1 positive)

end Quota

namespace Service

variable {service next : Service} {request : Http.Request} {client : Address} {now : Nat}
  {occurrence : Occurrence}

/-- Whether nothing keeps a request from getting through. -/
def passes (service : Service) (request : Http.Request) : Bool :=
  match service.limit? with
  | some limit => (limit.decide service.machine.clock request).isOk
  | none => true

/-- The request of a client that comes in and gets through. -/
def passingOf (client : Address) (service : Service) : Occurrence → List Http.Request
  | .move (.receive request) =>
    if request.claims client && service.passes request then [request] else []
  | _ => []

/-- The requests of a client that get through on a course. -/
def passing (client : Address) (service : Service) (course : List Occurrence) :
    List Http.Request :=
  gather (passingOf client) service course

/-- The warnings that a service has given. -/
def warnings (service : Service) : List LogEvent :=
  service.events.filter fun event => event.level = .warn

/-- A service without a limit lets everything through. -/
theorem letsThrough_of_unlimited
    (unlimited : service.limit? = none)
    (request : Http.Request) :
    service.LetsThrough request (service.receive request) := by
  have same : service.withLimit none = service := by
    rw [← unlimited]
    rfl
  unfold LetsThrough
  rw [same]
  rfl

/-- A request of a client gets through as long as the client has some allowance left. -/
theorem passes_of_keyed
    {limit : RateLimit}
    (found : service.limit? = some limit)
    (keyed : request.client? = some client) :
    service.passes request = limit.admits service.machine.clock client := by
  simp only [passes, found, RateLimit.decide, keyed]
  cases limit.admits service.machine.clock client <;> rfl

/-- A request of nobody does not get through. -/
theorem passes_of_unkeyed
    {limit : RateLimit}
    (found : service.limit? = some limit)
    (unkeyed : request.client? = none) :
    service.passes request = false := by
  simp only [passes, found, RateLimit.decide, unkeyed]
  rfl

/-- To get through is to be taken in as if there were no limit. -/
theorem passes_iff (limited : request.IsLimited) :
    service.passes request = true ↔ service.LetsThrough request (service.receive request) := by
  cases found : service.limit? with
  | none =>
      refine iff_of_true ?_ (letsThrough_of_unlimited found request)
      simp only [passes, found]
  | some limit =>
      have met := meets_receive limited found
      generalize service.receive request = received at met ⊢
      cases met with
      | unknown unkeyed =>
          rw [passes_of_unkeyed found unkeyed]
          exact iff_of_false Bool.false_ne_true (not_letsThrough_of_refused limited)
      | admitted client keyed admits =>
          rw [passes_of_keyed found keyed, admits]
          exact iff_of_true rfl (letsThrough_of_admitted limited _)
      | tooMany client keyed refuses =>
          rw [passes_of_keyed found keyed, refuses]
          exact iff_of_false Bool.false_ne_true (not_letsThrough_of_refused limited)

/-- A request that comes in takes as much from the allowance of a client as the client gets
through by it. -/
theorem allowance_receive
    {limit : RateLimit}
    (found : service.limit? = some limit)
    (positive : 0 < limit.quota.period)
    (request : Http.Request)
    (client : Address) :
    ∃ after, (service.receive request).limit? = some after ∧ after.quota = limit.quota ∧
      after.allowance service.machine.clock client +
          (service.passingOf client (.move (.receive request))).length =
        limit.allowance service.machine.clock client := by
  by_cases limited : request.IsLimited
  · have met := meets_receive limited found
    generalize service.receive request = received at met ⊢
    cases met with
    | unknown unkeyed =>
        refine ⟨limit, found, rfl, ?_⟩
        simp [passingOf, passes_of_unkeyed found unkeyed]
    | tooMany other keyed refuses =>
        refine ⟨limit, found, rfl, ?_⟩
        simp [passingOf, passes_of_keyed found keyed, refuses]
    | admitted other keyed admits =>
        refine ⟨limit.spend service.machine.clock other, rfl, rfl, ?_⟩
        by_cases own : other = client
        · subst own
          have claims : request.claims other = true :=
            Http.Request.claims_iff.2 ⟨limited, keyed⟩
          have left := (RateLimit.admits_iff positive).1 admits
          simp only [passingOf, claims, passes_of_keyed found keyed, admits, Bool.and_self,
            if_true, List.length_singleton, RateLimit.allowance_spend_self]
          omega
        · have unclaimed : request.claims client = false := by
            simp [Http.Request.claims, keyed, own]
          simp [passingOf, unclaimed, RateLimit.allowance_spend_of_ne (Ne.symm own)]
  · have unclaimed : request.claims client = false := by
      simp [Http.Request.claims, limited]
    refine ⟨limit, ?_, rfl, ?_⟩
    · rw [limit?_receive_of_not_isLimited limited, found]
    · simp [passingOf, unclaimed]

/-- A rate asks for a limit of its quota. -/
theorem limitOf?_word (rate : UInt64) :
    limitOf? (some rate.toNat) = (Quota.ofWord? rate).map RateLimit.ofQuota := by
  rw [Quota.ofWord?_eq]
  rfl

/-- Of a rate that is not zero something is said exactly if it has no quota. -/
theorem rateEvents_word {rate : UInt64} (positive : 0 < rate) :
    rateEvents (some rate.toNat) =
      if (Quota.ofWord? rate).isSome then [] else [invalidRateEvent rate.toNat] := by
  have kept : (some rate.toNat).filter (0 < ·) = some rate.toNat :=
    if_pos (decide_eq_true (UInt64.lt_iff_toNat_lt.1 positive))
  simp only [rateEvents, kept, Quota.ofWord?_eq]

/-- A service is launched without a warning but for what is said of its rate. -/
theorem warnings_launch
    (host : Host)
    (settings : CompilerSettings)
    (pageName : Bytes)
    (rate? : Option Nat)
    (workers : Nat)
    (machine : Machine)
    (names : Nat → String) :
    (launch host settings pageName rate? workers machine names).warnings = rateEvents rate? := by
  have events : (launch host settings pageName rate? workers machine names).events =
      spawnEvent (workerCount workers) ::
        (List.range (workerCount workers)).map Worker.started ++ rateEvents rate? :=
    rfl
  have calm : ∀ event ∈ spawnEvent (workerCount workers) ::
      (List.range (workerCount workers)).map Worker.started, event.level ≠ .warn := by
    intro event listed
    rcases List.mem_cons.1 listed with rfl | started
    · exact Level.noConfusion
    · obtain ⟨_, _, rfl⟩ := List.mem_map.1 started
      exact Level.noConfusion
  have warns : ∀ event ∈ rateEvents rate?, event.level = .warn := by
    intro event listed
    unfold rateEvents at listed
    split at listed
    · split at listed
      · cases listed
      · rw [List.mem_singleton.1 listed]
        rfl
    · cases listed
  rw [warnings, events, List.filter_append, List.filter_eq_nil_iff.2 (by simpa using calm),
    List.filter_eq_self.2 (by simpa using warns), List.nil_append]

/-- Without a limit a request that comes in does not set one up. -/
theorem unlimited_receive
    (unlimited : service.limit? = none)
    (request : Http.Request) :
    (service.receive request).limit? = none := by
  by_cases limited : request.IsLimited
  · have known : service.ticketed.limit? = none :=
      unlimited
    rw [receive_of_isLimited limited, receiveLimited]
    simp only [known, limit?_receiveSource]
  · rw [limit?_receive_of_not_isLimited limited, unlimited]

/-- What happens is a request that comes in, or it leaves the limit as it is and lets nothing
through. -/
theorem receives_or_quiet
    (made : service.occur? occurrence = some next) :
    (∃ request, occurrence = .move (.receive request) ∧ next = service.receive request) ∨
      next.limit? = service.limit? ∧ ∀ client, service.passingOf client occurrence = [] := by
  cases comes : occurrence.request? with
  | none =>
      refine .inr ⟨limit?_occur? made comes, ?_⟩
      intro client
      unfold passingOf
      split
      · cases comes
      · rfl
  | some request =>
      left
      unfold Occurrence.request? at comes
      split at comes
      next request =>
        simp only [occur?, step?, Option.ite_none_right_eq_some, Option.some.injEq] at made
        exact ⟨request, rfl, made.2.symm⟩
      next =>
        cases comes

/-- What a rate amounts to on a course of a service that was launched with it. -/
structure Rated
    (rate : UInt64)
    (first : Service)
    (course : List Occurrence)
    (service : Service) :
    Prop where
  /-- Nothing is divided by zero, and nothing is lost by working in words. -/
  exact : rate ≠ 0 ∧ Quota.ofWord? rate = Quota.ofRate? rate.toNat
  /-- A client may send as many requests at once as the rate says, up to the greatest word of 32
  bits, and one at least. -/
  burst : (Quota.narrow rate).toNat = min rate.toNat 4294967295 ∧
    1 ≤ (Quota.narrow rate).toNat
  /-- A rate of at most one request each nanosecond sets up a limit for good. Some time passes
  until a request is regained, at most a second until all of them are, and nobody is warned. -/
  limited : rate ≤ 1000000000 → ∃ quota, Quota.ofWord? rate = some quota ∧
    quota.burst = (Quota.narrow rate).toNat ∧ quota.period = 1000000000 / rate.toNat ∧
    0 < quota.period ∧ quota.burst * quota.period ≤ 1000000000 ∧
    first.limit? = some (.ofQuota quota) ∧
    (∃ limit, service.limit? = some limit ∧ limit.quota = quota) ∧
    first.warnings = []
  /-- No more requests of a client get through than the rate says, as long as all of them come in
  at one moment. -/
  atMost : rate ≤ 1000000000 → ∀ now, (∀ moment ∈ first.moments course, moment = now) →
    ∀ client, (first.passing client course).length ≤ rate.toNat
  /-- A greater rate sets up no limit. It is named in one warning, and everything is let through,
  now and later. -/
  unlimited : 1000000000 < rate → Quota.ofWord? rate = none ∧ first.limit? = none ∧
    first.warnings = [invalidRateEvent rate.toNat] ∧ service.limit? = none ∧
    ∀ request, service.LetsThrough request (service.receive request)
  /-- To get through is to be taken in as if there were no limit. -/
  through : ∀ request : Http.Request, request.IsLimited →
    (service.passes request = true ↔ service.LetsThrough request (service.receive request))

section Launched

variable
  {host : Host}
  {settings : CompilerSettings}
  {pageName : Bytes}
  {rate? : Option Nat}
  {workers : Nat}
  {names : Nat → String}
  {machine : Machine}
  {course : List Occurrence}

/-- A service that was launched without a limit never has one. -/
theorem unlimited_of_course
    (unlimited : limitOf? rate? = none)
    (run : (launch host settings pageName rate? workers machine names).undergo? course =
      some service) :
    service.limit? = none := by
  refine undergo?_induction (motive := fun _ service => service.limit? = none) unlimited ?_ run
  intro course last occurrence next before none made
  rcases receives_or_quiet made with ⟨request, _, rfl⟩ | ⟨same, _⟩
  · exact unlimited_receive none request
  · rw [same, none]

/-- A service that was launched with a limit keeps it. As long as the clock stands still, what a
client has got through and what is left of its allowance make up the burst. -/
theorem burst_of_course
    {quota : Quota}
    (positive : 0 < quota.period)
    (limited : limitOf? rate? = some (.ofQuota quota))
    (run : (launch host settings pageName rate? workers machine names).undergo? course =
      some service)
    (now : Nat)
    (client : Address) :
    ∃ limit, service.limit? = some limit ∧ limit.quota = quota ∧
      ((∀ moment ∈ (launch host settings pageName rate? workers machine names).moments course,
          moment = now) →
        limit.allowance now client +
            ((launch host settings pageName rate? workers machine names).passing client
              course).length =
          quota.burst) := by
  refine undergo?_induction
    (motive := fun course service => ∃ limit, service.limit? = some limit ∧
      limit.quota = quota ∧
      ((∀ moment ∈ (launch host settings pageName rate? workers machine names).moments course,
          moment = now) →
        limit.allowance now client +
            ((launch host settings pageName rate? workers machine names).passing client
              course).length =
          quota.burst))
    ⟨_, limited, rfl, fun _ => RateLimit.allowance_ofQuota positive now client⟩ ?_ run
  rintro course last occurrence next before ⟨limit, found, own, whole⟩ made
  rw [moments, passing, gather_snoc _ before made, gather_snoc _ before made, List.length_append]
  unfold moments passing at whole
  rcases receives_or_quiet made with ⟨request, rfl, rfl⟩ | ⟨same, none⟩
  · rw [← own] at positive
    obtain ⟨after, left, kept, taken⟩ := allowance_receive found positive request client
    refine ⟨after, left, kept.trans own, ?_⟩
    intro atOnce
    have moment : last.machine.clock = now :=
      atOnce _ (List.mem_append_right _ (List.mem_singleton_self _))
    have made := whole fun moment earlier => atOnce moment (List.mem_append_left _ earlier)
    rw [moment] at taken
    omega
  · refine ⟨limit, same.trans found, own, ?_⟩
    intro atOnce
    rw [none, List.length_nil]
    exact whole fun moment earlier => atOnce moment (List.mem_append_left _ earlier)

/-- Only a rate of zero and those of more than one request each nanosecond leave a service without
a limit; with any other no client gets more requests through at one moment than the rate says. -/
theorem rated_of_course
    {rate : UInt64}
    (positive : 0 < rate)
    (run : (launch host settings pageName (some rate.toNat) workers machine names).undergo? course =
      some service) :
    Rated rate (launch host settings pageName (some rate.toNat) workers machine names) course
      service := by
  have nonzero : 0 < rate.toNat :=
    UInt64.lt_iff_toNat_lt.1 positive
  have asked := limitOf?_word rate
  have narrowed : (Quota.narrow rate).toNat = min rate.toNat 4294967295 :=
    Quota.toNat_narrow rate
  constructor
  case exact =>
    refine ⟨?_, Quota.ofWord?_eq rate⟩
    rintro rfl
    cases nonzero
  case burst =>
    refine ⟨narrowed, ?_⟩
    omega
  case limited =>
    intro small
    have found := Quota.ofWord?_of_le positive small
    have period := Quota.period_pos positive small
    have bounded : rate.toNat ≤ 1000000000 :=
      UInt64.le_iff_toNat_le.1 small
    have fits : rate.toNat ≤ 4294967295 := by
      omega
    rw [found] at asked
    obtain ⟨limit, kept, own, _⟩ := burst_of_course period asked run 0 (.four [])
    refine ⟨_, found, ?_, rfl, period, Nat.mul_div_le _ _, asked, ⟨limit, kept, own⟩, ?_⟩
    · rw [narrowed, Nat.min_eq_left fits]
    · rw [warnings_launch, rateEvents_word positive, found]
      rfl
  case atMost =>
    intro small now atOnce client
    rw [Quota.ofWord?_of_le positive small] at asked
    obtain ⟨limit, _, _, whole⟩ :=
      burst_of_course (Quota.period_pos positive small) asked run now client
    exact Nat.le_trans (Nat.le_add_left _ _) (Nat.le_of_eq (whole atOnce))
  case unlimited =>
    intro large
    have absent := Quota.ofWord?_of_lt large
    rw [absent] at asked
    have unlimited := unlimited_of_course asked run
    refine ⟨absent, asked, ?_, unlimited, letsThrough_of_unlimited unlimited⟩
    rw [warnings_launch, rateEvents_word positive, absent]
    rfl
  case through =>
    intro request limited
    exact passes_iff limited

end Launched

/-- On a run in which one client sends three requests at once, two of them get through. -/
theorem rated_of_course_of_rush :
    ∃ reached, Sample.limited.undergo? Sample.rush = some reached ∧
      (Sample.limited.passing (.four [10, 0, 0, 2]) Sample.rush).length = 2 ∧
      Rated 2 Sample.limited Sample.rush reached := by
  have made : (Sample.limited.undergo? Sample.rush).isSome = true := by
    decide +kernel
  have passing : (Sample.limited.passing (.four [10, 0, 0, 2]) Sample.rush).length = 2 := by
    decide +kernel
  obtain ⟨reached, run⟩ := Option.isSome_iff_exists.1 made
  exact ⟨reached, run, passing, rated_of_course (by decide) run⟩

/-- Not every rate but zero sets up a limit. -/
theorem not_limited_of_positive :
    ¬∀ rate : UInt64, 0 < rate →
      (launch Sample.host Sample.settings [] (some rate.toNat) 1 Sample.machine).limit?.isSome =
        true := by
  intro limits
  have limited := limits 1000000001 (by decide)
  revert limited
  decide

end Service

end CompilePlayground
