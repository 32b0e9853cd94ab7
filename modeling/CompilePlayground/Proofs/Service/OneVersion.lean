import CompilePlayground.Proofs.Service.Drain
import CompilePlayground.Proofs.Service.Sending
import CompilePlayground.Proofs.Service.Trials

namespace CompilePlayground

open Posix

/-!
# One version for everybody

At most one request listens to the compiler, the one that the version is sought for. Once it has
been told a version, everybody is told the same, and nobody starts the compiler again. An attempt
that fails or is given up leaves nothing behind, and only the request that has made it is told
that it has failed.
-/

namespace Service

/-- What a request for the version is told: what has been learned, or that its own attempt has
failed. -/
inductive Told
    (trials : List Trial)
    (ticket : Nat)
    (request : Http.Request)
    (response : Http.Response) : Prop where
  | version
      (version : String)
      (known : version ∈ learned trials)
      (told : response = Route.complete request (.json 200 (Version.body version)))
  | failure
      (message : String)
      (failed : Trial.fail ticket (.version message) ∈ trials)
      (told : response =
        Route.complete request (Endpoint.Answer.failure (.version message)).response)

theorem Told.mono
    {trials : List Trial}
    {ticket : Nat}
    {request : Http.Request}
    {response : Http.Response}
    (told : Told trials ticket request response)
    (more : List Trial) :
    Told (trials ++ more) ticket request response := by
  cases told with
  | version version known told =>
      refine .version version ?_ told
      rw [learned_append]
      exact List.mem_append_left _ known
  | failure message failed told =>
      exact .failure message (List.mem_append_left _ failed) told

/-- How what is known of the version agrees with the requests and with the attempts that have been
made. -/
structure Seeking
    (requests : List Http.Request)
    (trials : List Trial)
    (service : Service) :
    Prop where
  seeker : ∀ ticket, service.version = .sought ticket ↔
    ∃ exchange ∈ service.exchanges,
      exchange.ticket = ticket ∧ exchange.errand.isListening = true
  learned : learned trials = service.version.known?.toList
  telling : ∀ version ∈ CompilePlayground.learned trials, Version.IsTelling version
  answered : ∀ reply ∈ service.replies, ∀ request, requests[reply.ticket]? = some request →
    request.IsInquiry → Told trials reply.ticket request reply.response

variable {service next : Service} {requests new : List Http.Request} {trials more : List Trial}
  {deeds : Deeds}

/-- Nobody listens, and the version is sought for nobody. -/
theorem seeker_of_quiet
    (free : ∀ ticket, service.version ≠ .sought ticket)
    (quiet : ∀ exchange ∈ service.exchanges, exchange.errand.isListening = false)
    (ticket : Nat) :
    service.version = .sought ticket ↔
      ∃ exchange ∈ service.exchanges,
        exchange.ticket = ticket ∧ exchange.errand.isListening = true := by
  constructor
  · intro sought
    exact absurd sought (free ticket)
  · rintro ⟨exchange, waits, _, listens⟩
    rw [quiet exchange waits] at listens
    cases listens

/-- A version that is unknown is sought for nobody. -/
theorem not_sought_of_unknown (unknown : service.version = .unknown) (ticket : Nat) :
    service.version ≠ .sought ticket := by
  rw [unknown]
  exact VersionCell.noConfusion

/-- The request that is set to listen is the one that the version is sought for, if no other
request listens. -/
theorem seeker_of_reassign
    {exchange : Exchange}
    {inquiry : Inquiry}
    (waiting : exchange ∈ service.exchanges)
    (sought : service.version = .sought exchange.ticket)
    (lone : ∀ other ∈ service.exchanges, other.errand.isListening = true →
      other.ticket = exchange.ticket)
    (ticket : Nat) :
    (service.reassign exchange.ticket (.listen inquiry)).version = .sought ticket ↔
      ∃ other ∈ (service.reassign exchange.ticket (.listen inquiry)).exchanges,
        other.ticket = ticket ∧ other.errand.isListening = true := by
  have same : (service.reassign exchange.ticket (.listen inquiry)).version = service.version :=
    rfl
  rw [same, sought, VersionCell.sought.injEq]
  constructor
  · rintro rfl
    refine ⟨{ exchange with errand := .listen inquiry }, ?_, rfl, rfl⟩
    exact List.mem_map.2 ⟨exchange, waiting, if_pos rfl⟩
  · rintro ⟨other, waits, rfl, listens⟩
    have listed : other ∈
        (service.books.reassign exchange.ticket (.listen inquiry)).exchanges :=
      waits
    rcases Books.of_mem_reassign listed with ⟨_, before⟩ | ⟨own, _⟩
    · exact (lone other before listens).symm
    · exact own.symm

namespace Seeking

/-- The only request that listens is the one that the version is sought for. -/
theorem lone
    (law : Seeking requests trials service)
    {exchange : Exchange}
    (waiting : exchange ∈ service.exchanges)
    (own : (∀ ticket, service.version ≠ .sought ticket) ∨ exchange.errand.isListening = true)
    (other : Exchange)
    (waits : other ∈ service.exchanges)
    (listens : other.errand.isListening = true) :
    other.ticket = exchange.ticket := by
  have sought := (law.seeker other.ticket).2 ⟨other, waits, rfl, listens⟩
  rcases own with free | listening
  · exact absurd sought (free _)
  · have also := (law.seeker exchange.ticket).2 ⟨exchange, waiting, rfl, listening⟩
    rw [sought, VersionCell.sought.injEq] at also
    exact also

/-- Nothing has been learned as long as a request may try. -/
theorem learned_eq_nil
    (law : Seeking requests trials service)
    {exchange : Exchange}
    (waiting : exchange ∈ service.exchanges)
    (own : service.version = .unknown ∨ exchange.errand.isListening = true) :
    CompilePlayground.learned trials = [] := by
  rw [law.learned]
  rcases own with unknown | listening
  · rw [unknown]
    rfl
  · rw [(law.seeker exchange.ticket).2 ⟨exchange, waiting, rfl, listening⟩]
    rfl

/-- Nobody listens any more once the only request that may has been let go. -/
theorem quiet_of_dismiss
    (law : Seeking requests trials service)
    {exchange : Exchange}
    (waiting : exchange ∈ service.exchanges)
    (own : (∀ ticket, service.version ≠ .sought ticket) ∨ exchange.errand.isListening = true)
    (other : Exchange)
    (waits : other ∈ service.exchanges.filter (·.ticket != exchange.ticket)) :
    other.errand.isListening = false := by
  obtain ⟨before, apart⟩ := List.mem_filter.1 waits
  rw [← Bool.not_eq_true]
  intro listens
  rw [bne_iff_ne] at apart
  exact apart (law.lone waiting own other before listens)

/-- Who has been told something has been told it whatever happens afterwards. -/
theorem told_of_mem
    (law : Seeking requests trials service)
    (laws : Books.Kept deeds service.books)
    (same : deeds.received = requests)
    (more : List Trial)
    (reply : Reply)
    (sent : reply ∈ service.replies)
    (request : Http.Request)
    (known : (requests ++ new)[reply.ticket]? = some request)
    (inquires : request.IsInquiry) :
    Told (trials ++ more) reply.ticket request reply.response := by
  obtain ⟨_, earlier, _⟩ := laws.replied reply sent
  rw [same] at earlier
  rw [List.getElem?_append_left (List.getElem?_eq_some_iff.1 earlier).1] at known
  exact (law.answered reply sent request known inquires).mono more

/-- Who is answered is told something that holds for the request that waits. -/
theorem told_of_send
    (law : Seeking requests trials service)
    (laws : Books.Kept deeds service.books)
    (same : deeds.received = requests)
    {exchange : Exchange}
    {response : Http.Response}
    (waiting : exchange ∈ service.exchanges)
    (told : Told (trials ++ more) exchange.ticket exchange.request response)
    (reply : Reply)
    (sent : reply ∈ service.replies ++ [⟨exchange.ticket, response⟩])
    (request : Http.Request)
    (known : (requests ++ new)[reply.ticket]? = some request)
    (inquires : request.IsInquiry) :
    Told (trials ++ more) reply.ticket request reply.response := by
  rcases List.mem_append.1 sent with before | now
  · exact law.told_of_mem laws same more reply before request known inquires
  · cases List.mem_singleton.1 now
    have waits := laws.registered.known exchange waiting
    rw [same] at waits
    rw [List.getElem?_append_left (List.getElem?_eq_some_iff.1 waits).1, waits,
      Option.some.injEq] at known
    rwa [← known]

/-- What has nothing to do with the version keeps the law. -/
theorem aside
    (law : Seeking requests trials service)
    (laws : Books.Kept deeds service.books)
    (same : deeds.received = requests)
    (frame : Aside (requests ++ new) service next) :
    Seeking (requests ++ new) (trials ++ []) next where
  seeker ticket := by
    rw [frame.version, law.seeker ticket]
    constructor
    · rintro ⟨exchange, waits, own, listens⟩
      exact ⟨exchange, (frame.listening exchange listens).2 waits, own, listens⟩
    · rintro ⟨exchange, waits, own, listens⟩
      exact ⟨exchange, (frame.listening exchange listens).1 waits, own, listens⟩
  learned := by
    rw [List.append_nil, frame.version]
    exact law.learned
  telling := by
    rw [List.append_nil]
    exact law.telling
  answered reply sent request known inquires := by
    rcases frame.answered reply sent with before | other
    · exact law.told_of_mem laws same [] reply before request known inquires
    · exact absurd inquires (other request known)

/-- Telling a version that is known keeps the law. -/
theorem tell
    (law : Seeking requests trials service)
    (laws : Books.Kept deeds service.books)
    (same : deeds.received = requests)
    {exchange : Exchange}
    {version : String}
    (waiting : exchange ∈ service.exchanges)
    (known : service.version = .known version) :
    Seeking (requests ++ new) (trials ++ []) (service.tell exchange version) := by
  have free (ticket : Nat) : service.version ≠ .sought ticket := by
    rw [known]
    exact VersionCell.noConfusion
  have told : Told (trials ++ []) exchange.ticket exchange.request
      (Route.complete exchange.request (.json 200 (Version.body version))) := by
    refine .version version ?_ rfl
    rw [List.append_nil, law.learned, known]
    exact List.mem_singleton_self _
  constructor
  case seeker =>
    exact seeker_of_quiet free (law.quiet_of_dismiss waiting (.inl free))
  case learned =>
    rw [List.append_nil]
    exact law.learned
  case telling =>
    rw [List.append_nil]
    exact law.telling
  case answered =>
    exact law.told_of_send laws same waiting told

/-- A request that begins to listen, or goes on, keeps the law. Nothing has been learned. -/
theorem reassign
    (law : Seeking requests trials service)
    (laws : Books.Kept deeds service.books)
    (same : deeds.received = requests)
    {exchange : Exchange}
    {inquiry : Inquiry}
    (waiting : exchange ∈ service.exchanges)
    (own : service.version = .unknown ∨ exchange.errand.isListening = true)
    (nothing : CompilePlayground.learned more = [])
    (books : next.exchanges = service.exchanges)
    (replies : next.replies = service.replies)
    (sought : next.version = .sought exchange.ticket) :
    Seeking (requests ++ new) (trials ++ more)
      (next.reassign exchange.ticket (.listen inquiry)) := by
  have none : CompilePlayground.learned (trials ++ more) = [] := by
    rw [learned_append, law.learned_eq_nil waiting own, nothing]
    rfl
  have unsought := own.imp_left not_sought_of_unknown
  constructor
  case seeker =>
    refine seeker_of_reassign (books ▸ waiting) sought ?_
    rw [books]
    exact law.lone waiting unsought
  case learned =>
    have cell : (next.reassign exchange.ticket (.listen inquiry)).version = next.version :=
      rfl
    rw [none, cell, sought]
    rfl
  case telling =>
    rw [none]
    intro version learned
    cases learned
  case answered =>
    have sent : (next.reassign exchange.ticket (.listen inquiry)).replies = next.replies :=
      rfl
    rw [sent, replies]
    exact law.told_of_mem laws same more

/-- A request that has learned a version keeps the law. -/
theorem learn
    (law : Seeking requests trials service)
    (laws : Books.Kept deeds service.books)
    (same : deeds.received = requests)
    {exchange : Exchange}
    {version : String}
    {machine : Machine}
    (waiting : exchange ∈ service.exchanges)
    (listening : exchange.errand.isListening = true)
    (telling : Version.IsTelling version) :
    Seeking (requests ++ new) (trials ++ [.learn exchange.ticket version])
      ({ service with machine, version := .known version }.tell exchange version) := by
  have now : CompilePlayground.learned (trials ++ [.learn exchange.ticket version]) =
      [version] := by
    rw [learned_append, law.learned_eq_nil waiting (.inr listening)]
    rfl
  have told : Told (trials ++ [.learn exchange.ticket version]) exchange.ticket exchange.request
      (Route.complete exchange.request (.json 200 (Version.body version))) := by
    refine .version version ?_ rfl
    rw [now]
    exact List.mem_singleton_self _
  constructor
  case seeker =>
    exact seeker_of_quiet (fun _ => VersionCell.noConfusion)
      (law.quiet_of_dismiss waiting (.inr listening))
  case learned =>
    exact now
  case telling =>
    rw [now]
    intro other learned
    rwa [List.mem_singleton.1 learned]
  case answered =>
    exact law.told_of_send laws same waiting told

/-- A request whose attempt has come to nothing keeps the law. Nothing is known or sought. -/
theorem free
    (law : Seeking requests trials service)
    {exchange : Exchange}
    (waiting : exchange ∈ service.exchanges)
    (own : service.version = .unknown ∨ exchange.errand.isListening = true)
    (nothing : CompilePlayground.learned more = [])
    (unknown : next.version = .unknown)
    (dismissed : next.exchanges = service.exchanges.filter (·.ticket != exchange.ticket))
    (answered : ∀ reply ∈ next.replies, ∀ request, (requests ++ new)[reply.ticket]? =
      some request → request.IsInquiry → Told (trials ++ more) reply.ticket request reply.response) :
    Seeking (requests ++ new) (trials ++ more) next := by
  have none : CompilePlayground.learned (trials ++ more) = [] := by
    rw [learned_append, law.learned_eq_nil waiting own, nothing]
    rfl
  have unsought := own.imp_left not_sought_of_unknown
  constructor
  case seeker =>
    refine seeker_of_quiet (not_sought_of_unknown unknown) ?_
    rw [dismissed]
    exact law.quiet_of_dismiss waiting unsought
  case learned =>
    rw [none, unknown]
    rfl
  case telling =>
    rw [none]
    intro version learned
    cases learned
  case answered =>
    exact answered

/-- Whatever happens keeps the law. -/
theorem step
    (law : Seeking requests trials service)
    (laws : Books.Kept deeds service.books)
    (same : deeds.received = requests)
    (affair : Affair (requests ++ new) service more next) :
    Seeking (requests ++ new) (trials ++ more) next := by
  cases affair with
  | aside _ frame =>
      exact law.aside laws same frame
  | tell exchange version waiting known =>
      exact law.tell laws same waiting known
  | begin exchange inquiry machine waiting unknown =>
      exact law.reassign laws same waiting (.inl unknown) rfl rfl rfl rfl
  | hear exchange inquiry machine waiting listening =>
      have sought := (law.seeker exchange.ticket).2 ⟨exchange, waiting, rfl, listening⟩
      exact law.reassign laws same waiting (.inr listening) rfl rfl rfl sought
  | learn exchange version machine waiting listening telling =>
      exact law.learn laws same waiting listening telling
  | fail exchange message machine waiting own =>
      refine law.free waiting own rfl rfl rfl (law.told_of_send laws same waiting ?_)
      exact .failure message (List.mem_append_right _ (List.mem_singleton_self _)) rfl
  | abandon exchange machine waiting listening =>
      exact law.free waiting (.inr listening) rfl rfl rfl (law.told_of_mem laws same _)

end Seeking

/-- Whether a move is about the requests rather than about workers, processes or time. -/
def Move.isClerical : Move → Bool
  | .receive _ | .attend _ | .leave _ | .close => true
  | .work _ | .run _ | .wait _ => false

/-- What becomes of the version, and what everybody is told about it. -/
structure OneVersion
    (requests : List Http.Request)
    (trials : List Trial)
    (service : Service) :
    Prop where
  /-- At most one request listens to the compiler. -/
  oneListens : ∀ first ∈ service.exchanges, ∀ second ∈ service.exchanges,
    first.errand.isListening = true → second.errand.isListening = true → first = second
  /-- The version is sought for the request that listens, and only for that one. -/
  seeker : ∀ ticket, service.version = .sought ticket ↔
    ∃ exchange ∈ service.exchanges,
      exchange.ticket = ticket ∧ exchange.errand.isListening = true
  /-- A version is written at most once, and it is the one that is known. -/
  writtenOnce : learned trials = service.version.known?.toList
  /-- Whatever happens later, a version that is known stays known, and no attempt is made. -/
  lasting : ∀ version course later, service.version = .known version →
    service.undergo? course = some later →
      later.version = .known version ∧ service.trials course = []
  /-- Once a version is known, what is done for requests starts nothing. -/
  untouched : ∀ version move next, service.version = .known version →
    move.isClerical = true → service.step? move = some next → next.machine = service.machine
  /-- A version that is known is not empty, has no blanks around it and is one line. -/
  telling : ∀ version, service.version = .known version → Version.IsTelling version
  /-- Who is answered is told the version that is known, or that its own attempt has failed. -/
  answered : ∀ reply ∈ service.replies, ∀ request, requests[reply.ticket]? = some request →
    request.IsInquiry →
      (reply.response.status = 200 ∧ ∃ version text, service.version = .known version ∧
        Version.IsToldBy version text ∧
        reply.response = Route.complete request (.json 200 text) ∧
        (request.method = "GET" → reply.response.body = Text.Utf8.encode text)) ∨
      (reply.response.status = 500 ∧ ∃ message,
        Trial.fail reply.ticket (.version message) ∈ trials ∧
        reply.response =
          Route.complete request (Endpoint.Answer.failure (.version message)).response)
  /-- As long as no version is known or sought, every request that asks makes its own attempt. -/
  tries : service.version = .unknown → ∀ exchange ∈ service.exchanges,
    exchange.errand = .inquire → ∃ next, service.attend? exchange.ticket = some next ∧
      (service.trialsOf (.move (.attend exchange.ticket)) = [.begin exchange.ticket] ∧
          next.version = .sought exchange.ticket ∨
        ∃ message, service.trialsOf (.move (.attend exchange.ticket)) =
            [.fail exchange.ticket (.version message)] ∧ next.version = .unknown)
  /-- While one request listens, all others wait. -/
  waits : ∀ ticket, service.version = .sought ticket → ∀ exchange ∈ service.exchanges,
    exchange.errand = .inquire → service.attend? exchange.ticket = none
  /-- Once a version is known, every request that asks is told it. -/
  tells : ∀ version, service.version = .known version → ∀ exchange ∈ service.exchanges,
    exchange.errand = .inquire →
      service.attend? exchange.ticket = some (service.tell exchange version)
  /-- An attempt that fails or is given up leaves the way free. -/
  freed : ∀ occurrence next ticket, service.occur? occurrence = some next →
    (Trial.abandon ticket ∈ service.trialsOf occurrence ∨
      ∃ failure, Trial.fail ticket failure ∈ service.trialsOf occurrence) →
    next.version = .unknown

namespace Seeking

variable {occurrence : Occurrence} {version : String}

/-- Nobody listens once a version is known. -/
theorem quiet_of_known
    (law : Seeking requests trials service)
    (known : service.version = .known version)
    {exchange : Exchange}
    (waits : exchange ∈ service.exchanges) :
    exchange.errand.isListening = false := by
  rw [← Bool.not_eq_true]
  intro listens
  have sought := (law.seeker exchange.ticket).2 ⟨exchange, waits, rfl, listens⟩
  rw [known] at sought
  cases sought

/-- A version that is known stays known, and no attempt is made. -/
theorem known_step
    (law : Seeking requests trials service)
    (known : service.version = .known version)
    (affair : Affair (requests ++ new) service more next) :
    next.version = .known version ∧ more = [] := by
  cases affair with
  | aside _ frame =>
      exact ⟨frame.version.trans known, rfl⟩
  | tell =>
      exact ⟨known, rfl⟩
  | begin _ _ _ _ unknown =>
      rw [known] at unknown
      cases unknown
  | hear _ _ _ waiting listening | learn _ _ _ waiting listening
  | abandon _ _ waiting listening =>
      rw [law.quiet_of_known known waiting] at listening
      cases listening
  | fail _ _ _ waiting own =>
      rcases own with unknown | listening
      · rw [known] at unknown
        cases unknown
      · rw [law.quiet_of_known known waiting] at listening
        cases listening

theorem known_undergo?
    {course : List Occurrence}
    {later : Service}
    (law : Seeking requests trials service)
    (laws : Books.Kept deeds service.books)
    (same : deeds.received = requests)
    (known : service.version = .known version)
    (run : service.undergo? course = some later) :
    later.version = .known version ∧ service.trials course = [] := by
  -- The laws go along, as nobody listens only by them.
  have all : ∃ deeds, Books.Kept deeds later.books ∧
      (∃ trials, Seeking deeds.received trials later) ∧
      later.version = .known version ∧ service.trials course = [] := by
    refine undergo?_induction
      (motive := fun course later => ∃ deeds, Books.Kept deeds later.books ∧
        (∃ trials, Seeking deeds.received trials later) ∧
        later.version = .known version ∧ service.trials course = [])
      ⟨deeds, laws, ⟨trials, same ▸ law⟩, known, rfl⟩ ?_ run
    rintro course last occurrence next before ⟨deeds, laws, ⟨trials, law⟩, known, none⟩ made
    have affair := affair_of_occur? laws rfl made
    obtain ⟨stays, still⟩ := law.known_step known affair
    refine ⟨deeds ++ last.deedsOf occurrence, laws.entry (entry_of_occur? made),
      ⟨trials ++ last.trialsOf occurrence, ?_⟩, stays, ?_⟩
    · rw [Deeds.received_append, received_deedsOf]
      exact law.step laws rfl affair
    · have whole := gather_snoc trialsOf before made
      unfold Service.trials at none ⊢
      rw [whole, none, still]
      rfl
  obtain ⟨_, _, _, result⟩ := all
  exact result

theorem untouched
    (law : Seeking requests trials service)
    (known : service.version = .known version)
    {move : Move}
    (clerical : move.isClerical = true)
    (made : service.step? move = some next) :
    next.machine = service.machine := by
  cases move with
  | work | run | wait =>
      cases clerical
  | receive request =>
      rw [step?, Option.ite_none_right_eq_some, Option.some.injEq] at made
      obtain ⟨_, _, _, _, _, _, shape⟩ := receive_eq service request
      rw [← made.2, shape]
  | close =>
      simp only [step?, Option.ite_none_right_eq_some, Option.some.injEq] at made
      rw [← made.2]
  | leave ticket =>
      obtain ⟨exchange, found, rfl⟩ := Option.map_eq_some_iff.1 made
      have quiet := law.quiet_of_known known (mem_of_exchange? found).1
      unfold giveUp
      split
      next errand =>
        rw [errand] at quiet
        cases quiet
      next =>
        rfl
  | attend ticket =>
      simp only [step?, attend?] at made
      split at made
      next =>
        cases made
      next exchange found =>
        have quiet := law.quiet_of_known known (mem_of_exchange? found).1
        split at made
        next =>
          cases made
          unfold submit
          split <;> rfl
        next =>
          obtain ⟨delivery, _, rfl⟩ := Option.map_eq_some_iff.1 made
          cases delivery <;> rfl
        next =>
          simp only [inquire?, known, Option.some.injEq] at made
          rw [← made]
          rfl
        next errand =>
          rw [errand] at quiet
          cases quiet

theorem tries
    (laws : Books.Kept deeds service.books)
    (unknown : service.version = .unknown)
    {exchange : Exchange}
    (waiting : exchange ∈ service.exchanges)
    (asks : exchange.errand = .inquire) :
    ∃ next, service.attend? exchange.ticket = some next ∧
      (service.trialsOf (.move (.attend exchange.ticket)) = [.begin exchange.ticket] ∧
          next.version = .sought exchange.ticket ∨
        ∃ message, service.trialsOf (.move (.attend exchange.ticket)) =
            [.fail exchange.ticket (.version message)] ∧ next.version = .unknown) := by
  have found := laws.registered.exchange?_eq waiting
  cases started : Inquiry.start service.host service.settings.program service.machine with
  | ok begun =>
      obtain ⟨inquiry, machine⟩ := begun
      have attends : service.attend? exchange.ticket =
          some ({ service with version := .sought exchange.ticket, machine }.reassign
            exchange.ticket (.listen inquiry)) := by
        simp only [attend?, found, asks, inquire?, unknown, started]
      refine ⟨_, attends, .inl ⟨?_, rfl⟩⟩
      simp [trialsOf, found, attempt, asks, unknown, started]
  | error cause =>
      have attends : service.attend? exchange.ticket =
          some (service.send exchange.ticket exchange.request
            (.failure (.version cause.message))) := by
        simp only [attend?, found, asks, inquire?, unknown, started]
      refine ⟨_, attends, .inr ⟨cause.message, ?_, unknown⟩⟩
      simp [trialsOf, found, attempt, asks, unknown, started]

theorem oneVersion
    (law : Seeking requests trials service)
    (laws : Books.Kept deeds service.books)
    (same : deeds.received = requests) :
    OneVersion requests trials service := by
  constructor
  case oneListens =>
    intro first firstWaits second secondWaits firstListens secondListens
    have ticket := law.lone secondWaits (.inr secondListens) first firstWaits firstListens
    exact laws.registered.unique firstWaits secondWaits ticket
  case seeker =>
    exact law.seeker
  case writtenOnce =>
    exact law.learned
  case lasting =>
    intro version course later known run
    exact law.known_undergo? laws same known run
  case untouched =>
    intro version move next known clerical made
    exact law.untouched known clerical made
  case telling =>
    intro version known
    refine law.telling version ?_
    rw [law.learned, known]
    exact List.mem_singleton_self _
  case answered =>
    intro reply sent request known inquires
    have answers : request.method ≠ Http.Sharing.askingMethod := by
      rcases inquires.2 with method | method <;> rw [method] <;> decide
    cases law.answered reply sent request known inquires with
    | version version knownVersion told =>
        left
        rw [law.learned, Option.mem_toList] at knownVersion
        have isKnown : service.version = .known version := by
          cases cell : service.version <;> rw [cell] at knownVersion <;> cases knownVersion
          rfl
        rw [told]
        refine ⟨Route.status_complete_of_not_asking answers _, version, _, isKnown,
          Version.isToldBy_body version, rfl, ?_⟩
        intro method
        exact Route.body_complete_of_get method _
    | failure message failed told =>
        right
        rw [told]
        exact ⟨Route.status_complete_of_not_asking answers _, message, failed, rfl⟩
  case tries =>
    intro unknown exchange waiting asks
    exact tries laws unknown waiting asks
  case waits =>
    intro ticket sought exchange waiting asks
    simp only [attend?, laws.registered.exchange?_eq waiting, asks, inquire?, sought]
  case tells =>
    intro version known exchange waiting asks
    simp only [attend?, laws.registered.exchange?_eq waiting, asks, inquire?, known]
  case freed =>
    intro occurrence next ticket made ends
    have affair := affair_of_occur? laws same made
    generalize service.trialsOf occurrence = more at affair ends
    cases affair with
    | fail | abandon =>
        rfl
    | aside | tell | hear | begin | learn =>
        simp at ends

end Seeking

section Launched

variable
  {host : Host}
  {settings : CompilerSettings}
  {pageName : Bytes}
  {rate? : Option Nat}
  {workers : Nat}
  {names : Nat → String}
  {machine : Machine}
  {course : List Occurrence}

theorem seeking_launch :
    Seeking [] [] (launch host settings pageName rate? workers machine names) where
  seeker := by
    refine seeker_of_quiet (fun _ => VersionCell.noConfusion) ?_
    intro exchange waits
    cases waits
  learned := rfl
  telling version learned := by
    cases learned
  answered reply sent := by
    cases sent

/-- Whatever happens to the requests, to the compiler and on the machine, everybody is told one
version. -/
theorem oneVersion_of_course
    (run : (launch host settings pageName rate? workers machine names).undergo? course =
      some service) :
    OneVersion (arrivals course)
      ((launch host settings pageName rate? workers machine names).trials course) service := by
  have law : Seeking (arrivals course)
      ((launch host settings pageName rate? workers machine names).trials course) service := by
    refine undergo?_induction
      (motive := fun course service => Seeking (arrivals course)
        ((launch host settings pageName rate? workers machine names).trials course) service)
      seeking_launch ?_ run
    intro course last occurrence next before law made
    have laws := kept_of_course before
    have same := received_account before
    rw [arrivals_append, arrivals_singleton, Service.trials, gather_snoc _ before made]
    exact law.step laws same (affair_of_occur? laws same made)
  exact law.oneVersion (kept_of_course run) (received_account run)

end Launched

namespace Sample

/-- A machine with a compiler that tells its version. -/
def telling : Machine :=
  let program : Program := .call (.write 1 (Text.Utf8.encode " v 1 \nmore")) fun _ => .exit 0
  let device : File := { content := .void, mode := 0o666, modified := 0 }
  let compiler : File := { content := .program fun _ => program, mode := 0o755, modified := 0 }
  let bare := Disk.empty.addDirectory [[100, 101, 118]]
  let equipped := (bare.addFile [[100, 101, 118], [110, 117, 108, 108]] device).2
  Machine.ofDisk (equipped.addFile [[99]] compiler).2

/-- A request for the version. -/
def inquiry (method : String) : Http.Request :=
  ⟨method, "/api/v1/version", [], [], none⟩

/-- Of three requests for the version one goes away while it listens, the next hears nothing, and
the last hears of it once the compiler has been replaced. A fourth comes later. -/
def curiosity : List Occurrence :=
  [.move (.receive (inquiry "GET")), .move (.receive (inquiry "GET")),
    .move (.receive (inquiry "HEAD")), .move (.attend 0), .move (.leave 0), .change machine,
    .move (.attend 1), .move (.run 1007), .move (.attend 1), .move (.attend 1),
    .move (.attend 1), .change telling, .move (.attend 2), .move (.run 1007),
    .move (.run 1007), .move (.attend 2), .move (.attend 2), .move (.attend 2),
    .move (.attend 2), .move (.receive (inquiry "GET")), .move (.attend 3)]

end Sample

/-- A course with an attempt that is given up, one that fails, and one that everybody hears of. -/
theorem oneVersion_of_course_of_curiosity :
    ∃ reached, Sample.service.undergo? Sample.curiosity = some reached ∧
      (reached.version = .known "v 1" ∧
        reached.replies.map (fun reply => (reply.ticket, reply.response.status)) =
          [(1, 500), (2, 200), (3, 200)]) ∧
      (∃ reply ∈ reached.replies, reply.ticket = 3 ∧
        reply.response.body = Text.Utf8.encode "\x7b\"version\":\"v 1\"\x7d") ∧
      OneVersion (arrivals Sample.curiosity) (Sample.service.trials Sample.curiosity)
        reached := by
  have made : (Sample.service.undergo? Sample.curiosity).map (fun reached =>
      (reached.version, reached.replies.map fun reply => (reply.ticket, reply.response.status))) =
        some (.known "v 1", [(1, 500), (2, 200), (3, 200)]) := by
    decide +kernel
  obtain ⟨reached, run, told⟩ := Option.map_eq_some_iff.1 made
  obtain ⟨known, replies⟩ := Prod.mk.inj told
  have law := oneVersion_of_course run
  have listed : (3, 200) ∈
      reached.replies.map fun reply => (reply.ticket, reply.response.status) := by
    rw [replies]
    decide
  obtain ⟨reply, sent, same⟩ := List.mem_map.1 listed
  obtain ⟨ticket, well⟩ := Prod.mk.inj same
  have asked : (arrivals Sample.curiosity)[reply.ticket]? = some (Sample.inquiry "GET") := by
    rw [ticket]
    rfl
  refine ⟨reached, run, ⟨known, replies⟩, ⟨reply, sent, ticket, ?_⟩, law⟩
  rcases law.answered reply sent _ asked ⟨by decide, .inl rfl⟩ with
    ⟨_, version, text, isKnown, toldBy, _, whole⟩ | ⟨failed, _⟩
  · rw [known, VersionCell.known.injEq] at isKnown
    subst isKnown
    rw [whole rfl, toldBy.written]
    rfl
  · rw [well] at failed
    cases failed

end Service

end CompilePlayground
