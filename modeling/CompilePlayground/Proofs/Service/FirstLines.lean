import CompilePlayground.Proofs.Service.OneVersion

namespace CompilePlayground

open Posix

/-!
# What the first line tells

The compiler tells its version by the first line of what it has written: of its output, or of its
complaints where the whole output is blank. A `Finding` is what has come of a run of the compiler.
A first line that is blank tells nothing, whatever comes after it, so that a run that has ended
well and has written something may be taken for one that has failed.
-/

namespace Text

/-- A text is trimmed at its front, and then at its end. -/
theorem trim_eq (characters : List Char) :
    trim characters = (characters.dropWhile isBlank).rdropWhile isBlank :=
  rfl

/-- Nothing is left of a text that is trimmed if all of it is blank, and only then. -/
theorem trim_eq_nil_iff {characters : List Char} :
    trim characters = [] ↔ ∀ character ∈ characters, isBlank character = true := by
  rw [trim_eq, List.rdropWhile_eq_nil_iff]
  constructor
  · intro blank
    rw [← List.dropWhile_eq_nil_iff]
    -- What is left of the text at the front would begin with a character that is not blank.
    by_contra left
    have first := List.head_dropWhile_not isBlank left
    rw [blank _ (List.head_mem left)] at first
    cases first
  · intro blank character member
    exact blank character ((List.dropWhile_suffix isBlank).subset member)

/-- A blank at the end of a text does not count. -/
theorem trim_concat
    {character : Char}
    (blank : isBlank character = true)
    (characters : List Char) :
    trim (characters ++ [character]) = trim characters := by
  rw [trim_eq, trim_eq, List.dropWhile_append]
  split
  next none =>
    rw [List.isEmpty_iff.1 none, List.dropWhile_cons_of_pos blank]
    rfl
  next =>
    exact List.rdropWhile_concat_pos _ _ _ blank

/-- The first line is the text up to the first line feed, but for a blank at its end. -/
theorem trim_firstLine (characters : List Char) :
    trim ((firstLine? characters).getD []) = trim (characters.takeWhile (· ≠ '\n')) := by
  unfold firstLine?
  split
  · rfl
  · simp only
    split
    · split
      next before ended =>
        have whole : characters.takeWhile (· ≠ '\n') = before.reverse ++ ['\r'] := by
          rw [← List.reverse_cons, ← ended, List.reverse_reverse]
        rw [whole, trim_concat (by decide)]
        rfl
      next =>
        rfl
    · rfl

end Text

namespace Version

/-- The text up to the first line feed of what tells the version: of the output, or of the
complaints where all of the output is blank. -/
def heading (output errors : Bytes) : List Char :=
  let text := (Text.Utf8.decodeLossy output).toList
  let chosen := if text.all Text.isBlank then (Text.Utf8.decodeLossy errors).toList else text
  chosen.takeWhile (· ≠ '\n')

theorem isBlank_eq (text : String) : isBlank text = text.toList.all Text.isBlank := by
  rw [Bool.eq_iff_iff, isBlank, List.isEmpty_iff, Text.trim_eq_nil_iff, List.all_eq_true]

theorem trim_firstLine_telling (output errors : Bytes) :
    Text.trim ((Text.firstLine? (telling output errors).toList).getD []) =
      Text.trim (heading output errors) := by
  rw [Text.trim_firstLine, telling, heading]
  simp only [isBlank_eq]
  split <;> rfl

end Version

/-- What has come of a run of the compiler that was to tell its version: it could not be started,
or it has ended, and its output and its complaints have been read to the end. -/
inductive Finding where
  | refused (cause : IoError)
  | ended (status : ExitStatus) (output errors : Bytes)
  deriving Repr, DecidableEq

namespace Finding

/-- The compiler has told a version: it has ended well, its first line is not blank, and the
version is this line without the blanks around it. -/
inductive Tells : Finding → String → Prop where
  | ended
      (status : ExitStatus)
      (output errors : Bytes)
      (well : status.isSuccess = true)
      (visible : ∃ character ∈ Version.heading output errors, Text.isBlank character = false) :
      Tells (.ended status output errors)
        (String.ofList (Text.trim (Version.heading output errors)))

/-- The compiler has told nothing: it could not be started, it has not ended well, or its first
line is blank. The message names the cause, or how it has ended. -/
inductive Fails (program : String) : Finding → String → Prop where
  | refused (cause : IoError) : Fails program (.refused cause) cause.message
  | ended
      (status : ExitStatus)
      (output errors : Bytes)
      (mute : status.isSuccess = false ∨
        ∀ character ∈ Version.heading output errors, Text.isBlank character = true) :
      Fails program (.ended status output errors)
        (program ++ " " ++ Version.flag ++ " exited with " ++ status.message)

/-- What a run brings. -/
def result (program : String) : Finding → Except ServiceFailure String
  | refused cause => .error (.version cause.message)
  | ended status output errors => Version.ofOutput program status output errors

/-- What becomes of the attempt of the request under a ticket. -/
def trial (program : String) (ticket : Nat) (finding : Finding) : Trial :=
  match finding.result program with
  | .ok version => .learn ticket version
  | .error failure => .fail ticket failure

/-- What a client is told. -/
def response (program : String) (finding : Finding) : Http.Response :=
  match finding.result program with
  | .ok version => .json 200 (Version.body version)
  | .error failure => (Endpoint.Answer.failure failure).response

variable {program : String} {finding : Finding}

/-- A run brings a version that was told, or it fails with a message. -/
theorem tells_or_fails (program : String) (finding : Finding) :
    (∃ version, finding.Tells version ∧ Version.IsTelling version ∧
        finding.result program = .ok version) ∨
      ∃ message, finding.Fails program message ∧
        finding.result program = .error (.version message) := by
  cases finding with
  | refused cause =>
      exact .inr ⟨cause.message, .refused cause, rfl⟩
  | ended status output errors =>
      have left : Text.trim (Version.heading output errors) = [] ↔
          ∀ character ∈ Version.heading output errors, Text.isBlank character = true :=
        Text.trim_eq_nil_iff
      have telling {version : String}
          (brought : (ended status output errors).result program = .ok version) :
          Version.IsTelling version :=
        Version.isTelling_of_ofOutput brought
      simp only [result, Version.ofOutput, Version.trim_firstLine_telling] at telling ⊢
      split at telling
      next kept =>
        rw [if_pos kept]
        rw [Bool.and_eq_true, Bool.not_eq_true', List.isEmpty_eq_false_iff, Ne, left] at kept
        refine .inl ⟨_, .ended status output errors kept.1 ?_, telling rfl, rfl⟩
        simpa using kept.2
      next lost =>
        rw [if_neg lost]
        rw [Bool.and_eq_true, Bool.not_eq_true', List.isEmpty_eq_false_iff, Ne, left,
          not_and_not_right] at lost
        refine .inr ⟨_, .ended status output errors ?_, rfl⟩
        cases well : status.isSuccess with
        | true =>
            exact .inr (lost well)
        | false =>
            exact .inl rfl

/-- A run that tells a version does not fail. -/
theorem Tells.not_fails {version message : String} (tells : finding.Tells version) :
    ¬finding.Fails program message := by
  obtain ⟨status, output, errors, well, character, member, visible⟩ := tells
  rintro (_ | ⟨_, _, _, unwell | mute⟩)
  · rw [well] at unwell
    cases unwell
  · rw [mute character member] at visible
    cases visible

/-- What a client is told of a run. -/
inductive Answers
    (program : String)
    (finding : Finding)
    (request : Http.Request)
    (response : Http.Response) : Prop where
  | told
      (version text : String)
      (tells : finding.Tells version)
      (telling : Version.IsTelling version)
      (toldBy : Version.IsToldBy version text)
      (same : response = Route.complete request (.json 200 text))
      (whole : request.method = "GET" → response.body = Text.Utf8.encode text)
  | failed
      (message : String)
      (fails : finding.Fails program message)
      (same : response =
        Route.complete request (Endpoint.Answer.failure (.version message)).response)

/-- A client is told the version, or that the run has failed. -/
theorem answers_response (program : String) (finding : Finding) (request : Http.Request) :
    finding.Answers program request (Route.complete request (finding.response program)) := by
  rcases finding.tells_or_fails program with
    ⟨version, tells, telling, brought⟩ | ⟨message, fails, brought⟩
  · have same : finding.response program = .json 200 (Version.body version) := by
      rw [response, brought]
    rw [same]
    exact .told version _ tells telling (Version.isToldBy_body version) rfl
      fun method => Route.body_complete_of_get method _
  · refine .failed message fails ?_
    rw [response, brought]

/-- What an attempt has learned was told. -/
theorem tells_of_trial
    {ticket : Nat}
    {version : String}
    (learned : (finding.trial program ticket).learned? = some version) :
    finding.Tells version ∧ Version.IsTelling version := by
  unfold trial at learned
  rcases finding.tells_or_fails program with
    ⟨_, tells, telling, brought⟩ | ⟨message, _, brought⟩
  · rw [brought] at learned
    cases learned
    exact ⟨tells, telling⟩
  · rw [brought] at learned
    cases learned

/-- An attempt that has failed belongs to a run that has. -/
theorem fails_of_trial
    {ticket own : Nat}
    {message : String}
    (failed : Trial.fail own (.version message) = finding.trial program ticket) :
    finding.Fails program message ∧ ticket = own := by
  unfold trial at failed
  rcases finding.tells_or_fails program with ⟨_, _, _, brought⟩ | ⟨_, fails, brought⟩
  · rw [brought] at failed
    cases failed
  · rw [brought] at failed
    cases failed
    exact ⟨fails, rfl⟩

end Finding

namespace Service

/-- What has come of a run of the compiler when something is done for a request. -/
def finding? (service : Service) (exchange : Exchange) : Option Finding :=
  match exchange.errand, service.version with
  | .inquire, .unknown =>
    match Inquiry.start service.host service.settings.program service.machine with
    | .ok _ => none
    | .error cause => some (.refused cause)
  | .listen inquiry, _ =>
    match inquiry.listen? service.machine with
    | some _ => none
    | none =>
      (inquiry.ending? service.machine).map fun status =>
        .ended status inquiry.output.bytes inquiry.errors.bytes
  | _, _ => none

/-- What has come of a run of the compiler when something happens, with the ticket of the request
that has asked. -/
def findingsOf (service : Service) : Occurrence → List (Nat × Finding)
  | .move (.attend ticket) =>
    (((service.exchange? ticket).bind service.finding?).map fun finding =>
      (ticket, finding)).toList
  | _ => []

/-- What has come of the runs of the compiler on a course. -/
def findings (service : Service) (course : List Occurrence) : List (Nat × Finding) :=
  gather findingsOf service course

variable {service next : Service} {deeds : Deeds} {occurrence : Occurrence}
  {exchange : Exchange} {finding : Finding}

/-- Who has asked is told what the run has brought. -/
theorem replies_conclude (service : Service) (exchange : Exchange) (program : String)
    (finding : Finding) :
    (service.conclude exchange (finding.result program)).replies =
      service.replies ++
        [⟨exchange.ticket, Route.complete exchange.request (finding.response program)⟩] := by
  unfold Finding.response conclude
  cases finding.result program <;> rfl

/-- Once a run has come to something, the request that has asked is answered by it. -/
theorem attend?_of_finding?
    (laws : Books.Kept deeds service.books)
    (waiting : exchange ∈ service.exchanges)
    (found : service.finding? exchange = some finding) :
    ∃ next, service.step? (.attend exchange.ticket) = some next ∧
      next.replies = service.replies ++
        [⟨exchange.ticket,
          Route.complete exchange.request (finding.response service.settings.program)⟩] := by
  have place := laws.registered.exchange?_eq waiting
  unfold finding? at found
  simp only [step?, attend?, place]
  split at found
  next errand unknown =>
    split at found
    next =>
      cases found
    next cause failed =>
      cases found
      simp only [errand, inquire?, unknown, failed]
      exact ⟨_, rfl, rfl⟩
  next inquiry _ errand =>
    split at found
    next =>
      cases found
    next drained =>
      obtain ⟨status, ended, rfl⟩ := Option.map_eq_some_iff.1 found
      simp only [errand, listen?, drained, ended, Option.map_some]
      exact ⟨_, rfl, replies_conclude _ exchange _ (.ended status _ _)⟩
  next =>
    cases found

/-- What comes of a run is put down for the request that has asked. -/
theorem mem_findingsOf {entry : Nat × Finding} :
    entry ∈ service.findingsOf occurrence ↔
      ∃ exchange finding, service.exchange? exchange.ticket = some exchange ∧
        service.finding? exchange = some finding ∧
        occurrence = .move (.attend exchange.ticket) ∧ entry = (exchange.ticket, finding) := by
  constructor
  · intro listed
    unfold findingsOf at listed
    split at listed
    next ticket =>
      rw [Option.mem_toList, Option.map_eq_some_iff] at listed
      obtain ⟨finding, found, rfl⟩ := listed
      obtain ⟨exchange, place, finds⟩ := Option.bind_eq_some_iff.1 found
      obtain ⟨_, rfl⟩ := mem_of_exchange? place
      exact ⟨exchange, finding, place, finds, rfl, rfl⟩
    next =>
      cases listed
  · rintro ⟨exchange, finding, place, found, rfl, rfl⟩
    simp [findingsOf, place, found]

/-- An attempt ends by what has come of a run, unless it is given up. -/
theorem finding_of_trial
    {trial : Trial}
    (made : trial ∈ service.trialsOf occurrence) :
    (∃ ticket, trial = .begin ticket ∨ trial = .abandon ticket) ∨
      ∃ ticket finding, (ticket, finding) ∈ service.findingsOf occurrence ∧
        trial = finding.trial service.settings.program ticket := by
  unfold trialsOf at made
  split at made
  next ticket =>
    cases place : service.exchange? ticket with
    | none =>
        rw [place] at made
        cases made
    | some exchange =>
        obtain ⟨_, rfl⟩ := mem_of_exchange? place
        have brings {finding : Finding} (found : service.finding? exchange = some finding)
            (same : trial = finding.trial service.settings.program exchange.ticket) :
            ∃ ticket finding,
              (ticket, finding) ∈ service.findingsOf (.move (.attend exchange.ticket)) ∧
                trial = finding.trial service.settings.program ticket :=
          ⟨exchange.ticket, finding,
            mem_findingsOf.2 ⟨exchange, finding, place, found, rfl, rfl⟩, same⟩
        rw [place, Option.elim_some] at made
        unfold attempt at made
        split at made
        next errand unknown =>
          split at made
          next =>
            exact .inl ⟨exchange.ticket, .inl (List.mem_singleton.1 made)⟩
          next cause failed =>
            have found : service.finding? exchange = some (.refused cause) := by
              simp only [finding?, errand, unknown, failed]
            exact .inr (brings found (List.mem_singleton.1 made))
        next _ inquiry errand =>
          split at made
          next status drained ended =>
            have found : service.finding? exchange =
                some (.ended status inquiry.output.bytes inquiry.errors.bytes) := by
              simp only [finding?, errand, drained, ended, Option.map_some]
            refine .inr (brings found ?_)
            simp only [Finding.trial, Finding.result]
            unfold Inquiry.result at made
            generalize Version.ofOutput _ _ _ _ = result at made ⊢
            cases result <;> exact List.mem_singleton.1 made
          next =>
            cases made
        next =>
          cases made
  next ticket =>
    split at made
    · exact .inl ⟨ticket, .inr (List.mem_singleton.1 made)⟩
    · cases made
  next =>
    cases made

/-- What the runs of the compiler have come to, and what everybody who asks for the version is
told about them. -/
structure FirstLines
    (program : String)
    (requests : List Http.Request)
    (findings : List (Nat × Finding))
    (service : Service) :
    Prop where
  /-- A request that a run has come to something for is told about it: the version exactly if the
  compiler has told one, and otherwise why it has not. -/
  answered : ∀ entry ∈ findings, ∃ request response, requests[entry.1]? = some request ∧
    ⟨entry.1, response⟩ ∈ service.replies ∧ entry.2.Answers program request response
  /-- Nobody is told anything else: a version comes from a run that has told it, an error from a
  run of one's own that has told nothing. -/
  grounded : ∀ reply ∈ service.replies, ∀ request, requests[reply.ticket]? = some request →
    request.IsInquiry → ∃ entry ∈ findings,
      entry.2.Answers program request reply.response ∧
        (reply.response.status = 200 ∧ (∃ version, entry.2.Tells version) ∨
          reply.response.status = 500 ∧ entry.1 = reply.ticket ∧
            ∃ message, entry.2.Fails program message)
  /-- A request whose compiler could not be started, or has ended and has been read to the end, is
  answered by it as soon as it is attended to. -/
  concludes : ∀ exchange ∈ service.exchanges, ∀ finding,
    service.finding? exchange = some finding →
      ∃ next response, service.step? (.attend exchange.ticket) = some next ∧
        next.replies = service.replies ++ [⟨exchange.ticket, response⟩] ∧
        finding.Answers program exchange.request response

section Launched

variable
  {host : Host}
  {settings : CompilerSettings}
  {pageName : Bytes}
  {rate? : Option Nat}
  {workers : Nat}
  {names : Nat → String}
  {machine : Machine}
  {course : List Occurrence}

/-- What is known of the version agrees with the attempts that a course has made. -/
theorem seeking_of_course
    (run : (launch host settings pageName rate? workers machine names).undergo? course =
      some service) :
    Seeking (arrivals course)
      ((launch host settings pageName rate? workers machine names).trials course) service := by
  refine undergo?_induction
    (motive := fun course service => Seeking (arrivals course)
      ((launch host settings pageName rate? workers machine names).trials course) service)
    seeking_launch ?_ run
  intro course last occurrence next before law made
  have laws := kept_of_course before
  have same := received_account before
  rw [arrivals_append, arrivals_singleton, trials, gather_snoc _ before made]
  exact law.step laws same (affair_of_occur? laws same made)

/-- All that was learned on a course, and all that has failed, was found by a run. -/
theorem finding_of_trial_of_course
    (run : (launch host settings pageName rate? workers machine names).undergo? course =
      some service)
    (trial : Trial)
    (made : trial ∈ (launch host settings pageName rate? workers machine names).trials course) :
    (∃ ticket, trial = .begin ticket ∨ trial = .abandon ticket) ∨
      ∃ ticket finding,
        (ticket, finding) ∈
          (launch host settings pageName rate? workers machine names).findings course ∧
        trial = finding.trial settings.program ticket := by
  refine undergo?_induction
    (motive := fun course _ => ∀ trial,
      trial ∈ (launch host settings pageName rate? workers machine names).trials course →
        (∃ ticket, trial = .begin ticket ∨ trial = .abandon ticket) ∨
          ∃ ticket finding,
            (ticket, finding) ∈
              (launch host settings pageName rate? workers machine names).findings course ∧
            trial = finding.trial settings.program ticket)
    nofun ?_ run trial made
  intro course last occurrence next before inductionHypothesis made trial listed
  rw [trials, gather_snoc _ before made, List.mem_append] at listed
  rw [findings, gather_snoc _ before made]
  rcases listed with earlier | now
  · refine (inductionHypothesis trial earlier).imp_right ?_
    rintro ⟨ticket, finding, found, same⟩
    exact ⟨ticket, finding, List.mem_append_left _ found, same⟩
  · refine (finding_of_trial now).imp_right ?_
    rintro ⟨ticket, finding, found, same⟩
    rw [(settings_of_course before).2] at same
    exact ⟨ticket, finding, List.mem_append_right _ found, same⟩

/-- Whatever a run has come to on a course, the request that has asked was told about it. -/
theorem answered_of_course
    (run : (launch host settings pageName rate? workers machine names).undergo? course =
      some service)
    (entry : Nat × Finding)
    (found : entry ∈ (launch host settings pageName rate? workers machine names).findings course) :
    ∃ request, (arrivals course)[entry.1]? = some request ∧
      ⟨entry.1, Route.complete request (entry.2.response settings.program)⟩ ∈
        service.replies := by
  refine undergo?_induction
    (motive := fun course service => ∀ entry,
      entry ∈ (launch host settings pageName rate? workers machine names).findings course →
        ∃ request, (arrivals course)[entry.1]? = some request ∧
          ⟨entry.1, Route.complete request (entry.2.response settings.program)⟩ ∈
            service.replies)
    nofun ?_ run entry found
  intro course last occurrence next before inductionHypothesis made entry listed
  rw [findings, gather_snoc _ before made, List.mem_append] at listed
  rw [arrivals_append]
  rcases listed with earlier | now
  · obtain ⟨request, known, sent⟩ := inductionHypothesis entry earlier
    refine ⟨request, ?_, (entry_of_occur? made).keepsReplies sent⟩
    rw [List.getElem?_append_left (List.getElem?_eq_some_iff.1 known).1, known]
  · obtain ⟨exchange, finding, place, finds, rfl, rfl⟩ := mem_findingsOf.1 now
    have laws := kept_of_course before
    obtain ⟨waiting, _⟩ := mem_of_exchange? place
    have known := laws.registered.known exchange waiting
    rw [received_account before] at known
    obtain ⟨reached, attended, replies⟩ := attend?_of_finding? laws waiting finds
    cases made.symm.trans attended
    refine ⟨exchange.request, ?_, ?_⟩
    · rw [List.getElem?_append_left (List.getElem?_eq_some_iff.1 known).1, known]
    · rw [replies, (settings_of_course before).2]
      exact List.mem_append_right _ (List.mem_singleton_self _)

/-- Whatever the compiler writes and however it ends, who asks for the version is told the first
line, unless it is blank. -/
theorem firstLines_of_course
    (run : (launch host settings pageName rate? workers machine names).undergo? course =
      some service) :
    FirstLines settings.program (arrivals course)
      ((launch host settings pageName rate? workers machine names).findings course) service where
  answered entry found := by
    obtain ⟨request, known, sent⟩ := answered_of_course run entry found
    exact ⟨request, _, known, sent, entry.2.answers_response settings.program request⟩
  grounded reply sent request known inquires := by
    have answers : request.method ≠ Http.Sharing.askingMethod := by
      rcases inquires.2 with method | method <;> rw [method] <;> decide
    cases (seeking_of_course run).answered reply sent request known inquires with
    | version version learned told =>
        obtain ⟨trial, made, brought⟩ := List.mem_filterMap.1 learned
        rcases finding_of_trial_of_course run trial made with
          ⟨ticket, rfl | rfl⟩ | ⟨ticket, finding, found, rfl⟩
        · cases brought
        · cases brought
        · obtain ⟨tells, telling⟩ := Finding.tells_of_trial brought
          rw [told]
          exact ⟨_, found, .told version _ tells telling (Version.isToldBy_body version) rfl
              fun method => Route.body_complete_of_get method _,
            .inl ⟨Route.status_complete_of_not_asking answers _, version, tells⟩⟩
    | failure message failed told =>
        rcases finding_of_trial_of_course run _ failed with
          ⟨ticket, same | same⟩ | ⟨ticket, finding, found, same⟩
        · cases same
        · cases same
        · obtain ⟨fails, own⟩ := Finding.fails_of_trial same
          refine ⟨_, found, .failed message fails told, .inr ⟨?_, own, message, fails⟩⟩
          rw [told]
          exact Route.status_complete_of_not_asking answers _
  concludes exchange waiting finding found := by
    obtain ⟨next, made, replies⟩ := attend?_of_finding? (kept_of_course run) waiting found
    refine ⟨next, _, made, replies, ?_⟩
    rw [(settings_of_course run).2]
    exact finding.answers_response settings.program exchange.request

end Launched

namespace Sample

/-- A machine with a compiler that writes some bytes as its output, and some as complaints, when it
is asked for its version. -/
def writing (output errors : Bytes) : Machine :=
  let program : Program :=
    .call (.write 1 output) fun _ => .call (.write 2 errors) fun _ => .exit 0
  let device : File := { content := .void, mode := 0o666, modified := 0 }
  let compiler : File := { content := .program fun _ => program, mode := 0o755, modified := 0 }
  let bare := Disk.empty.addDirectory [[100, 101, 118]]
  let equipped := (bare.addFile [[100, 101, 118], [110, 117, 108, 108]] device).2
  Machine.ofDisk (equipped.addFile [[99]] compiler).2

/-- The compiler is replaced, asked for its version and read to the end. -/
def asking (ticket reads : Nat) (machine : Machine) : List Occurrence :=
  [.change machine, .move (.receive (inquiry "GET")), .move (.attend ticket),
    .move (.run 1007), .move (.run 1007), .move (.run 1007)] ++
      List.replicate reads (.move (.attend ticket))

/-- A compiler whose first line is blank. -/
def spaced : List Occurrence :=
  asking 0 4 (writing (Text.Utf8.encode "\nv 1\n") [])

/-- After the compiler whose first line is blank comes one that tells its version by way of
complaint. -/
def complaining : List Occurrence :=
  spaced ++ asking 1 5 (writing (Text.Utf8.encode " \n") (Text.Utf8.encode " v 2 \nmore"))

end Sample

namespace Sample

/-- What has come of the compiler that complains. -/
def complaint : Finding :=
  .ended (.code 0) (Text.Utf8.encode " \n") (Text.Utf8.encode " v 2 \nmore")

/-- The compiler that complains tells its version, and no other. -/
theorem eq_of_complaint_tells {version : String} (tells : complaint.Tells version) :
    version = "v 2" := by
  cases tells
  decide +kernel

/-- The compiler that complains has not failed. -/
theorem not_complaint_fails (program message : String) : ¬complaint.Fails program message := by
  have visible : ∃ character ∈ Version.heading (Text.Utf8.encode " \n")
      (Text.Utf8.encode " v 2 \nmore"), Text.isBlank character = false := by
    refine ⟨'v', ?_, ?_⟩ <;> decide +kernel
  exact (Finding.Tells.ended (.code 0) _ _ rfl visible).not_fails

end Sample

/-- A run that has failed, and one that everybody hears of. -/
theorem firstLines_of_course_of_complaining :
    ∃ reached, Sample.service.undergo? Sample.complaining = some reached ∧
      (reached.version = .known "v 2" ∧
        reached.replies.map (fun reply => (reply.ticket, reply.response.status)) =
          [(0, 500), (1, 200)]) ∧
      (∃ reply ∈ reached.replies, reply.ticket = 1 ∧
        reply.response.body = Text.Utf8.encode "\x7b\"version\":\"v 2\"\x7d") ∧
      FirstLines Sample.settings.program (arrivals Sample.complaining)
        (Sample.service.findings Sample.complaining) reached := by
  have made : (Sample.service.undergo? Sample.complaining).map (fun reached =>
      (reached.version, reached.replies.map fun reply => (reply.ticket, reply.response.status))) =
        some (.known "v 2", [(0, 500), (1, 200)]) := by
    decide +kernel
  obtain ⟨reached, run, told⟩ := Option.map_eq_some_iff.1 made
  have law := firstLines_of_course run
  have found : (1, Sample.complaint) ∈ Sample.service.findings Sample.complaining := by
    decide +kernel
  obtain ⟨request, response, asked, sent, answers⟩ := law.answered _ found
  have isGet : request = Sample.inquiry "GET" :=
    (Option.some.inj asked).symm
  refine ⟨reached, run, Prod.mk.inj told, ⟨_, sent, rfl, ?_⟩, law⟩
  cases answers with
  | told version text tells telling toldBy same whole =>
      cases Sample.eq_of_complaint_tells tells
      rw [whole (by rw [isGet]; rfl), toldBy.written]
      rfl
  | failed message fails same =>
      exact absurd fails (Sample.not_complaint_fails _ _)

/-- That the compiler has ended well and has written something does not make it tell its version:
a blank first line is enough for it to count as one that has failed. -/
theorem not_told_of_written :
    ¬∀ course reached, Sample.service.undergo? course = some reached →
      ∀ ticket output errors,
        (ticket, .ended (.code 0) output errors) ∈ Sample.service.findings course →
          (∃ character ∈ (Text.Utf8.decodeLossy output).toList,
            Text.isBlank character = false) →
          ∃ reply ∈ reached.replies, reply.ticket = ticket ∧ reply.response.status = 200 := by
  intro told
  have made : (Sample.service.undergo? Sample.spaced).map (fun reached =>
      reached.replies.map fun reply => (reply.ticket, reply.response.status)) =
        some [(0, 500)] := by
    decide +kernel
  obtain ⟨reached, run, replies⟩ := Option.map_eq_some_iff.1 made
  have found : (0, Finding.ended (.code 0) (Text.Utf8.encode "\nv 1\n") []) ∈
      Sample.service.findings Sample.spaced := by
    decide +kernel
  have written : ∃ character ∈ (Text.Utf8.decodeLossy (Text.Utf8.encode "\nv 1\n")).toList,
      Text.isBlank character = false := by
    refine ⟨'v', ?_, ?_⟩ <;> decide +kernel
  obtain ⟨reply, sent, _, well⟩ := told Sample.spaced reached run 0 _ [] found written
  have listed : (reply.ticket, reply.response.status) ∈
      reached.replies.map fun reply => (reply.ticket, reply.response.status) :=
    List.mem_map_of_mem sent
  rw [replies, List.mem_singleton, well] at listed
  have same : 200 = 500 :=
    congrArg Prod.snd listed
  exact absurd same (by decide)

end Service

end CompilePlayground
