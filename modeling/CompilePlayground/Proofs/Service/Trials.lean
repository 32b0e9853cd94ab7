import CompilePlayground.Proofs.Json.Records
import CompilePlayground.Proofs.Service.Courses
import Mathlib.Data.List.DropRight

namespace CompilePlayground

open Posix

/-!
# Attempts to learn the version

A trial is something that happens to an attempt to learn the compiler's version: the compiler is
started by a request, it tells its version, it fails, or the client goes away while it runs. What
an occurrence has to do with the version is listed once, as an `Affair`.
-/

/-- A request for the version. -/
def Http.Request.IsInquiry (request : Http.Request) : Prop :=
  request.path = Route.version.path ∧ (request.method = "GET" ∨ request.method = "HEAD")

/-- Whether the compiler is being listened to. -/
def Errand.isListening : Errand → Bool
  | .listen _ => true
  | _ => false

/-- The version, once it is known. -/
def VersionCell.known? : VersionCell → Option String
  | .known version => some version
  | _ => none

/-- A line that tells something, without blanks around it. -/
def Version.IsTelling (version : String) : Prop :=
  version ≠ "" ∧ Text.trim version.toList = version.toList ∧ '\n' ∉ version.toList

/-- A text that tells a version: an object whose only member is the version, which can be read back
from it. -/
structure Version.IsToldBy (version text : String) : Prop where
  written : text = "\x7b\"version\":\""
    ++ String.ofList (version.toList.flatMap Json.escapeCharacter) ++ "\"\x7d"
  read : Json.readWhole (Json.readValue Json.depthLimit) (Text.Utf8.encode text) =
    .ok (.object [("version", .text version)])

/-- The version is told by the body that is sent. -/
theorem Version.isToldBy_body (version : String) : IsToldBy version (body version) where
  written := by
    have key : ['v', 'e', 'r', 's', 'i', 'o', 'n'].flatMap Json.escapeCharacter =
        ['v', 'e', 'r', 's', 'i', 'o', 'n'] :=
      rfl
    rw [← String.toList_inj]
    simp [-List.flatMap_cons, body, Json.Value.write, Json.Value.writeOnto, Json.writeMembers,
      Json.toList_writeString, key]
  read := by
    have fits : (Json.Value.object [("version", .text version)]).Fits Json.depthLimit := by
      refine .object (List.pairwise_singleton _ _) ?_
      rintro member listed
      cases List.mem_singleton.1 listed
      exact .text version
    have whole : (Json.Value.object [("version", .text version)]).IsWhole := by
      rintro number (_ | _ | ⟨listed, holds⟩)
      cases List.mem_singleton.1 listed
      cases holds
    exact Json.readWhole_of_takes (Json.takes_readValue fits whole)

/-- Something that happens to the attempt of the request under a ticket. -/
inductive Trial where
  | begin (ticket : Nat)
  | learn (ticket : Nat) (version : String)
  | fail (ticket : Nat) (failure : ServiceFailure)
  | abandon (ticket : Nat)
  deriving Repr, DecidableEq

/-- The version that is learned. -/
def Trial.learned? : Trial → Option String
  | learn _ version => some version
  | _ => none

/-- The versions that trials have brought. -/
def learned (trials : List Trial) : List String :=
  trials.filterMap Trial.learned?

@[simp] theorem learned_append (first second : List Trial) :
    learned (first ++ second) = learned first ++ learned second :=
  List.filterMap_append

namespace Service

/-- What becomes of an attempt when something is done for a request. -/
def attempt (service : Service) (exchange : Exchange) : List Trial :=
  match exchange.errand, service.version with
  | .inquire, .unknown =>
    match Inquiry.start service.host service.settings.program service.machine with
    | .ok _ => [.begin exchange.ticket]
    | .error cause => [.fail exchange.ticket (.version cause.message)]
  | .listen inquiry, _ =>
    match inquiry.listen? service.machine, inquiry.ending? service.machine with
    | none, some status =>
      match inquiry.result service.settings.program status with
      | .ok version => [.learn exchange.ticket version]
      | .error failure => [.fail exchange.ticket failure]
    | _, _ => []
  | _, _ => []

/-- What becomes of attempts when something happens. -/
def trialsOf (service : Service) : Occurrence → List Trial
  | .move (.attend ticket) => (service.exchange? ticket).elim [] service.attempt
  | .move (.leave ticket) =>
    match (service.exchange? ticket).map Exchange.errand with
    | some (.listen _) => [.abandon ticket]
    | _ => []
  | _ => []

/-- What becomes of attempts on a course. -/
def trials (service : Service) (course : List Occurrence) : List Trial :=
  gather trialsOf service course

/-- What happens has nothing to do with the version: the same request goes on listening, if any,
and nobody who asks for the version is answered. -/
structure Aside (requests : List Http.Request) (service next : Service) : Prop where
  version : next.version = service.version
  listening : ∀ exchange : Exchange, exchange.errand.isListening = true →
    (exchange ∈ next.exchanges ↔ exchange ∈ service.exchanges)
  answered : ∀ reply ∈ next.replies, reply ∈ service.replies ∨
    ∀ request, requests[reply.ticket]? = some request → ¬request.IsInquiry

/-- What an occurrence has to do with the version. -/
inductive Affair (requests : List Http.Request) (service : Service) :
    List Trial → Service → Prop where
  | aside
      (next : Service)
      (frame : Aside requests service next) :
      Affair requests service [] next
  | tell
      (exchange : Exchange)
      (version : String)
      (waiting : exchange ∈ service.exchanges)
      (known : service.version = .known version) :
      Affair requests service [] (service.tell exchange version)
  | begin
      (exchange : Exchange)
      (inquiry : Inquiry)
      (machine : Machine)
      (waiting : exchange ∈ service.exchanges)
      (unknown : service.version = .unknown) :
      Affair requests service [.begin exchange.ticket]
        ({ service with version := .sought exchange.ticket, machine }.reassign exchange.ticket
          (.listen inquiry))
  | hear
      (exchange : Exchange)
      (inquiry : Inquiry)
      (machine : Machine)
      (waiting : exchange ∈ service.exchanges)
      (listening : exchange.errand.isListening = true) :
      Affair requests service []
        ((service.withMachine machine).reassign exchange.ticket (.listen inquiry))
  | learn
      (exchange : Exchange)
      (version : String)
      (machine : Machine)
      (waiting : exchange ∈ service.exchanges)
      (listening : exchange.errand.isListening = true)
      (telling : Version.IsTelling version) :
      Affair requests service [.learn exchange.ticket version]
        ({ service with machine, version := .known version }.tell exchange version)
  | fail
      (exchange : Exchange)
      (message : String)
      (machine : Machine)
      (waiting : exchange ∈ service.exchanges)
      (own : service.version = .unknown ∨ exchange.errand.isListening = true) :
      Affair requests service [.fail exchange.ticket (.version message)]
        ({ service with machine, version := .unknown }.send exchange.ticket exchange.request
          (.failure (.version message)))
  | abandon
      (exchange : Exchange)
      (machine : Machine)
      (waiting : exchange ∈ service.exchanges)
      (listening : exchange.errand.isListening = true) :
      Affair requests service [.abandon exchange.ticket]
        ({ service with version := .unknown, machine }.dismiss exchange.ticket)

end Service

namespace Text

/-- Nothing is left to be trimmed of what has been trimmed. -/
theorem trim_trim (characters : List Char) : trim (trim characters) = trim characters := by
  have shape (characters : List Char) :
      trim characters = (characters.dropWhile isBlank).rdropWhile isBlank :=
    rfl
  rw [shape characters]
  generalize kept : characters.dropWhile isBlank = rest
  -- What is cut off at the end leaves the first character where it is.
  have front : (rest.rdropWhile isBlank).dropWhile isBlank = rest.rdropWhile isBlank := by
    rw [List.dropWhile_eq_self_iff]
    intro some
    have begins := List.rdropWhile_prefix isBlank rest
    rw [begins.getElem some]
    subst kept
    exact List.dropWhile_get_zero_not _ _ _
  rw [shape, front, List.rdropWhile_idempotent]

theorem mem_of_mem_trim
    {character : Char}
    {characters : List Char}
    (member : character ∈ trim characters) :
    character ∈ characters := by
  have inRest := (List.rdropWhile_prefix isBlank _).subset member
  exact (List.dropWhile_suffix _).subset inRest

theorem newline_not_mem_firstLine
    {characters line : List Char}
    (first : firstLine? characters = some line) :
    '\n' ∉ line := by
  have plain : '\n' ∉ characters.takeWhile (· ≠ '\n') := by
    intro member
    simpa using List.mem_takeWhile_imp member
  unfold firstLine? at first
  split at first
  · cases first
  · simp only at first
    split at first
    · split at first
      next before ended =>
        cases first
        intro member
        refine plain ?_
        rw [← List.mem_reverse, ended]
        exact List.mem_cons_of_mem _ (List.mem_reverse.1 member)
      next =>
        cases first
        exact plain
    · cases first
      exact plain

end Text

namespace Version

theorem isTelling_of_ofOutput
    {program version : String}
    {status : ExitStatus}
    {output errors : Bytes}
    (told : ofOutput program status output errors = .ok version) :
    IsTelling version := by
  unfold ofOutput at told
  generalize read : (Text.firstLine? (telling output errors).toList).getD [] = line at told
  have plain : '\n' ∉ line := by
    subst read
    cases first : Text.firstLine? (telling output errors).toList with
    | none =>
        exact List.not_mem_nil
    | some line =>
        exact Text.newline_not_mem_firstLine first
  simp only [Bool.and_eq_true, Bool.not_eq_true'] at told
  split at told
  next kept =>
    cases told
    refine ⟨?_, ?_, ?_⟩
    · intro empty
      have none : Text.trim line = [] := by
        simpa using congrArg String.toList empty
      rw [none] at kept
      cases kept.2
    · rw [String.toList_ofList]
      exact Text.trim_trim line
    · rw [String.toList_ofList]
      exact fun member => plain (Text.mem_of_mem_trim member)
  next =>
    cases told

theorem error_of_ofOutput
    {program : String}
    {failure : ServiceFailure}
    {status : ExitStatus}
    {output errors : Bytes}
    (failed : ofOutput program status output errors = .error failure) :
    ∃ message, failure = .version message := by
  unfold ofOutput at failed
  simp only at failed
  split at failed
  · cases failed
  · cases failed
    exact ⟨_, rfl⟩

end Version

theorem Http.Request.IsSource.not_isInquiry
    {request : Http.Request}
    (source : request.IsSource) :
    ¬request.IsInquiry := by
  rintro ⟨path, _⟩
  rw [source.1] at path
  revert path
  decide

namespace Service

variable {service next : Service} {deeds : Deeds} {requests : List Http.Request}
  {occurrence : Occurrence}

/-- A request for the version waits until something is done for it. -/
theorem receive_of_isInquiry
    {request : Http.Request}
    (inquires : request.IsInquiry)
    (service : Service) :
    service.receive request =
      { service with fresh := service.fresh + 1 }.enlist ⟨service.fresh, request, .inquire⟩ := by
  have asks : Http.Sharing.isAsking request = false := by
    rcases inquires.2 with method | method <;> simp [Http.Sharing.isAsking, method] <;> decide
  have leads : Route.ofPath? request.path = some .version := by
    rw [inquires.1]
    decide
  have takes : Route.takes .version request.method = true := by
    rcases inquires.2 with method | method <;> rw [method] <;> decide
  unfold receive receiveAs
  simp only [asks, leads, takes, Bool.false_eq_true, if_false, if_true]
  rfl

/-- What is done for a request with a job has nothing to do with the version. -/
theorem aside_send
    (laws : Books.Kept deeds service.books)
    (same : deeds.received = requests)
    {exchange : Exchange}
    {job : Job}
    (waiting : exchange ∈ service.exchanges)
    (about : exchange.errand.job? = some job)
    (answer : Endpoint.Answer) :
    Aside requests service (service.send exchange.ticket exchange.request answer) where
  version := rfl
  listening other listens := by
    constructor
    · exact List.mem_of_mem_filter
    · intro waits
      refine List.mem_filter.2 ⟨waits, ?_⟩
      rw [bne_iff_ne]
      intro own
      cases laws.registered.unique waits waiting own
      cases errand : exchange.errand <;> rw [errand] at listens about <;> cases listens
      cases about
  answered reply sent := by
    rcases List.mem_append.1 sent with before | now
    · exact .inl before
    · right
      intro request known
      cases List.mem_singleton.1 now
      have waits := laws.registered.known exchange waiting
      rw [same, known, Option.some.injEq] at waits
      subst waits
      exact (laws.registered.sources exchange waiting job about).1.not_isInquiry

theorem aside_receive
    (laws : Books.Kept deeds service.books)
    (same : deeds.received = requests)
    {request : Http.Request}
    (made : service.step? (.receive request) = some next) :
    Aside (requests ++ [request]) service next := by
  have entry : Books.Entry service.books [.receive request] next.books :=
    entry_of_step? made
  rw [step?, Option.ite_none_right_eq_some, Option.some.injEq] at made
  have version : next.version = service.version := by
    obtain ⟨_, _, _, _, _, _, shape⟩ := receive_eq service request
    rw [← made.2, shape]
  have fresh : service.fresh = requests.length := by
    rw [← same]
    exact laws.registered.fresh
  have earlier (exchange : Exchange) (waits : exchange ∈ service.exchanges) :
      exchange.ticket ≠ service.fresh := by
    have known := (List.getElem?_eq_some_iff.1 (laws.registered.known exchange waits)).1
    rw [← laws.registered.fresh] at known
    exact Nat.ne_of_lt known
  by_cases inquires : request.IsInquiry
  · rw [← made.2, receive_of_isInquiry inquires]
    refine ⟨rfl, ?_, fun _ sent => .inl sent⟩
    intro exchange listens
    constructor
    · intro waits
      rcases List.mem_append.1 waits with before | now
      · exact before
      · cases List.mem_singleton.1 now
        cases listens
    · exact List.mem_append_left _
  · generalize shape : next.books = books at entry
    cases entry with
    | respond _ response =>
        have listed : next.exchanges = service.exchanges.filter (·.ticket != service.fresh) :=
          congrArg Books.exchanges shape
        have sent : next.replies = service.replies ++ [⟨service.fresh, response⟩] :=
          congrArg Books.replies shape
        refine ⟨version, ?_, ?_⟩
        · intro exchange _
          rw [listed, List.mem_filter, bne_iff_ne, and_iff_left_iff_imp]
          exact earlier exchange
        · intro reply answered
          rw [sent, List.mem_append, List.mem_singleton] at answered
          rcases answered with before | rfl
          · exact .inl before
          · right
            intro asked known
            rw [fresh, List.getElem?_concat_length, Option.some.injEq] at known
            rwa [← known]
    | enlist _ errand _ known =>
        have listed : next.exchanges =
            service.exchanges ++ [⟨service.fresh, request, errand⟩] :=
          congrArg Books.exchanges shape
        have sent : next.replies = service.replies :=
          congrArg Books.replies shape
        refine ⟨version, ?_, ?_⟩
        · intro exchange listens
          rw [listed, List.mem_append, List.mem_singleton, or_iff_left_iff_imp]
          rintro rfl
          rcases known with ⟨rfl, _⟩ | ⟨rfl, _⟩ <;> cases listens
        · intro reply answered
          rw [sent] at answered
          exact .inl answered

/-- A request that puts its job into the queue goes on without listening. -/
theorem aside_submit
    (laws : Books.Kept deeds service.books)
    (same : deeds.received = requests)
    {exchange : Exchange}
    {job : Job}
    (waiting : exchange ∈ service.exchanges)
    (submits : exchange.errand = .submit job) :
    Aside requests service (service.submit exchange job) := by
  unfold submit
  split
  · refine ⟨rfl, ?_, fun _ sent => .inl sent⟩
    intro other listens
    constructor
    · intro waits
      have listed : other ∈
          (service.books.reassign exchange.ticket (.collect job)).exchanges :=
        waits
      rcases Books.of_mem_reassign listed with ⟨_, before⟩ | ⟨_, collects, _⟩
      · exact before
      · rw [collects] at listens
        cases listens
    · intro waits
      refine List.mem_map.2 ⟨other, waits, if_neg ?_⟩
      intro own
      cases laws.registered.unique waits waiting own
      rw [submits] at listens
      cases listens
  · exact aside_send laws same waiting (by rw [submits]; rfl) _

theorem affair_attend?
    (laws : Books.Kept deeds service.books)
    (same : deeds.received = requests)
    {ticket : Nat}
    (made : service.attend? ticket = some next) :
    Affair requests service (service.trialsOf (.move (.attend ticket))) next := by
  unfold attend? at made
  split at made
  next =>
    cases made
  next exchange found =>
    obtain ⟨waiting, rfl⟩ := mem_of_exchange? found
    simp only [trialsOf, found, Option.elim_some, attempt]
    cases errand : exchange.errand with
    | submit job =>
        simp only [errand] at made ⊢
        cases made
        exact .aside _ (aside_submit laws same waiting errand)
    | collect job =>
        simp only [errand] at made ⊢
        obtain ⟨delivery, _, rfl⟩ := Option.map_eq_some_iff.1 made
        have about : exchange.errand.job? = some job := by
          rw [errand]
          rfl
        cases delivery with
        | report report =>
            exact .aside _ (aside_send laws same waiting about _)
        | nothing =>
            exact .aside _ (aside_send laws same waiting about _)
    | inquire =>
        simp only [errand, inquire?] at made ⊢
        cases version : service.version with
        | known told =>
            simp only [version, Option.some.injEq] at made ⊢
            subst made
            exact .tell exchange told waiting version
        | sought other =>
            simp only [version, reduceCtorEq] at made
        | unknown =>
            simp only [version] at made ⊢
            split at made
            next inquiry machine started =>
              cases made
              rw [started]
              exact .begin exchange inquiry machine waiting version
            next cause failed =>
              cases made
              rw [failed]
              have own : Affair requests service _ _ :=
                .fail exchange cause.message service.machine waiting (.inl version)
              rw [← version] at own
              exact own
    | listen inquiry =>
        have listening : exchange.errand.isListening = true := by
          rw [errand]
          rfl
        simp only [errand, listen?] at made ⊢
        split at made
        next heard machine listened =>
          cases made
          rw [listened]
          exact .hear exchange heard machine waiting listening
        next listened =>
          obtain ⟨status, ended, rfl⟩ := Option.map_eq_some_iff.1 made
          simp only [listened, ended, conclude]
          cases told : inquiry.result service.settings.program status with
          | ok version =>
              exact .learn exchange version _ waiting listening
                (Version.isTelling_of_ofOutput told)
          | error failure =>
              obtain ⟨message, rfl⟩ := Version.error_of_ofOutput told
              exact .fail exchange message _ waiting (.inr listening)

theorem affair_leave?
    (laws : Books.Kept deeds service.books)
    {ticket : Nat}
    (made : service.leave? ticket = some next) :
    Affair requests service (service.trialsOf (.move (.leave ticket))) next := by
  obtain ⟨exchange, found, rfl⟩ := Option.map_eq_some_iff.1 made
  obtain ⟨waiting, rfl⟩ := mem_of_exchange? found
  have idle (quiet : exchange.errand.isListening = false) :
      Affair requests service [] (service.dismiss exchange.ticket) := by
    refine .aside _ ⟨rfl, ?_, fun _ sent => .inl sent⟩
    intro listener listens
    constructor
    · exact List.mem_of_mem_filter
    · intro waits
      refine List.mem_filter.2 ⟨waits, ?_⟩
      rw [bne_iff_ne]
      intro own
      cases laws.registered.unique waits waiting own
      rw [listens] at quiet
      cases quiet
  simp only [trialsOf, found, Option.map_some, giveUp]
  cases errand : exchange.errand with
  | listen inquiry =>
      have listening : exchange.errand.isListening = true := by
        rw [errand]
        rfl
      exact .abandon exchange _ waiting listening
  | submit | collect | inquire =>
      exact idle (by rw [errand]; rfl)

/-- Whatever happens has to do with the version in one of the ways that are listed. -/
theorem affair_of_occur?
    (laws : Books.Kept deeds service.books)
    (same : deeds.received = requests)
    (made : service.occur? occurrence = some next) :
    Affair (requests ++ occurrence.request?.toList) service (service.trialsOf occurrence) next := by
  have still {next : Service}
      (version : next.version = service.version)
      (exchanges : next.exchanges = service.exchanges)
      (replies : next.replies = service.replies) :
      Affair (requests ++ []) service [] next := by
    rw [List.append_nil]
    refine .aside _ ⟨version, ?_, ?_⟩
    · intro exchange _
      rw [exchanges]
    · intro reply sent
      rw [replies] at sent
      exact .inl sent
  cases occurrence with
  | change machine =>
      cases made
      exact still rfl rfl rfl
  | move move =>
      cases move with
      | receive request =>
          exact .aside _ (aside_receive laws same made)
      | attend ticket =>
          have affair := affair_attend? laws same made
          rw [← List.append_nil requests] at affair
          exact affair
      | leave ticket =>
          exact affair_leave? laws made
      | work index =>
          obtain ⟨_, _, _, _, _, rfl⟩ := work?_eq made
          exact still rfl rfl rfl
      | run process =>
          obtain ⟨machine, _, rfl⟩ := Option.map_eq_some_iff.1 made
          exact still rfl rfl rfl
      | wait moment =>
          cases made
          exact still rfl rfl rfl
      | close =>
          simp only [occur?, step?, Option.ite_none_right_eq_some, Option.some.injEq] at made
          rw [← made.2]
          exact still rfl rfl rfl

end Service

end CompilePlayground
