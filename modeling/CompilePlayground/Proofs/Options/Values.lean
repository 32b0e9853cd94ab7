import CompilePlayground.Config
import CompilePlayground.Proofs.Text.Decoding
import Mathlib.Algebra.Group.Nat.Defs

namespace CompilePlayground.Options

/-!
# What raw values stand for

Each option has a type of its own. `Flag.Means` says what its raw values stand for, without saying
how they are read; reading finds exactly that.
-/

section Numbers

/-- What digits count when they follow a number. -/
def countOnto (value : Nat) (digits : List Char) : Nat :=
  digits.foldl (fun value digit => value * 10 + (digit.toNat - 48)) value

/-- Digits that write a number. -/
structure IsNumeral (digits : List Char) (value : Nat) : Prop where
  some : digits ≠ []
  all : ∀ digit ∈ digits, digit.isDigit = true
  counts : countOnto 0 digits = value

/-- A text that writes a number, with a plus sign or without. -/
def WritesNatural (text : List Char) (value : Nat) : Prop :=
  ∃ digits, IsNumeral digits value ∧ (text = digits ∨ text = '+' :: digits)

/-- A text that writes a port. A minus sign may stand before a zero. -/
def WritesPort (text : List Char) (port : Nat) : Prop :=
  port ≤ 65535 ∧
    (WritesNatural text port ∨ port = 0 ∧ ∃ digits, IsNumeral digits 0 ∧ text = '-' :: digits)

variable {limit value total : Nat} {tooFar : NumberFault} {digits text : List Char}

theorem le_countOnto (value : Nat) (digits : List Char) : value ≤ countOnto value digits := by
  induction digits generalizing value with
  | nil =>
      exact Nat.le_refl _
  | cons digit rest inductionHypothesis =>
      have more := inductionHypothesis (value * 10 + (digit.toNat - 48))
      unfold countOnto at more ⊢
      rw [List.foldl_cons]
      omega

/-- Digits are read up to a limit. -/
theorem readDigits_eq_ok_iff (small : value ≤ limit) :
    readDigits limit value tooFar digits = .ok total ↔
      (∀ digit ∈ digits, digit.isDigit = true) ∧ countOnto value digits = total ∧
        total ≤ limit := by
  induction digits generalizing value with
  | nil =>
      simp only [readDigits, Except.ok.injEq, List.not_mem_nil, false_implies, implies_true,
        true_and, countOnto, List.foldl_nil]
      constructor
      · rintro rfl
        exact ⟨rfl, small⟩
      · exact And.left
  | cons digit rest inductionHypothesis =>
      rw [readDigits, List.forall_mem_cons]
      by_cases isDigit : digit.isDigit = true
      · have counts : countOnto value (digit :: rest) =
            countOnto (value * 10 + (digit.toNat - 48)) rest :=
          rfl
        simp only [isDigit, Bool.not_true, Bool.false_eq_true, if_false, counts, true_and]
        split
        next large =>
          have more := le_countOnto (value * 10 + (digit.toNat - 48)) rest
          simp only [reduceCtorEq, false_iff]
          rintro ⟨_, rfl, within⟩
          omega
        next within =>
          exact inductionHypothesis (Nat.le_of_not_lt within)
      · simp [isDigit]

theorem readDigits_eq_ok_iff_isNumeral (some : digits ≠ []) :
    readDigits limit 0 tooFar digits = .ok total ↔ IsNumeral digits total ∧ total ≤ limit := by
  rw [readDigits_eq_ok_iff (Nat.zero_le _)]
  constructor
  · rintro ⟨all, counts, within⟩
    exact ⟨⟨some, all, counts⟩, within⟩
  · rintro ⟨⟨_, all, counts⟩, within⟩
    exact ⟨all, counts, within⟩

/-- A text that begins with a digit has no sign. -/
theorem IsNumeral.head_isDigit
    {digit : Char}
    {rest : List Char}
    (numeral : IsNumeral (digit :: rest) value) :
    digit.isDigit = true :=
  numeral.all digit List.mem_cons_self

theorem readNatural_eq_ok_iff :
    readNatural limit text = .ok total ↔ WritesNatural text total ∧ total ≤ limit := by
  unfold WritesNatural
  unfold readNatural
  split
  · simp only [reduceCtorEq, false_iff, not_and]
    rintro ⟨digits, numeral, rfl | same⟩
    · exact absurd rfl numeral.some
    · cases same
  · simp only [reduceCtorEq, false_iff, not_and]
    rintro ⟨digits, numeral, rfl | same⟩
    · exact absurd numeral.head_isDigit (by decide)
    · cases same
      exact absurd rfl numeral.some
  next digits some =>
    rw [readDigits_eq_ok_iff_isNumeral (by rintro rfl; exact some rfl)]
    constructor
    · rintro ⟨numeral, within⟩
      exact ⟨⟨digits, numeral, .inr rfl⟩, within⟩
    · rintro ⟨⟨other, numeral, rfl | same⟩, within⟩
      · exact absurd numeral.head_isDigit (by decide)
      · cases same
        exact ⟨numeral, within⟩
  next some _ unsigned =>
    rw [readDigits_eq_ok_iff_isNumeral some]
    constructor
    · rintro ⟨numeral, within⟩
      exact ⟨⟨text, numeral, .inl rfl⟩, within⟩
    · rintro ⟨⟨digits, numeral, rfl | rfl⟩, within⟩
      · exact ⟨numeral, within⟩
      · exact absurd rfl (unsigned digits)

/-- A port is read from the texts that write one. -/
theorem readInteger_isPort_iff {port : Nat} :
    (∃ value, readInteger text = .ok value ∧ (0 ≤ value ∧ value ≤ 65535) ∧ value.toNat = port) ↔
      WritesPort text port := by
  unfold readInteger WritesPort
  split
  next digit digits =>
    constructor
    · rintro ⟨value, read, ⟨least, _⟩, rfl⟩
      cases counted : readDigits (twoTo 63) 0 .small (digit :: digits) with
      | error fault =>
          rw [counted] at read
          cases read
      | ok total =>
          rw [counted] at read
          cases read
          have nothing : (0 : Int) ≤ -(total : Int) := least
          have zero : total = 0 := by
            omega
          subst zero
          have numeral := (readDigits_eq_ok_iff_isNumeral (List.cons_ne_nil _ _)).1 counted
          exact ⟨by decide, .inr ⟨rfl, _, numeral.1, rfl⟩⟩
    · rintro ⟨_, ⟨other, numeral, rfl | same⟩ | ⟨rfl, other, numeral, same⟩⟩
      · exact absurd numeral.head_isDigit (by decide)
      · cases same
      · cases same
        have counted : readDigits (twoTo 63) 0 .small (digit :: digits) = .ok 0 :=
          (readDigits_eq_ok_iff_isNumeral (List.cons_ne_nil _ _)).2 ⟨numeral, Nat.zero_le _⟩
        rw [counted]
        exact ⟨0, rfl, by decide, rfl⟩
  next unsigned =>
    constructor
    · rintro ⟨value, read, ⟨_, most⟩, rfl⟩
      cases counted : readNatural (twoTo 63 - 1) text with
      | error fault =>
          rw [counted] at read
          cases read
      | ok total =>
          rw [counted] at read
          cases read
          refine ⟨?_, .inl (readNatural_eq_ok_iff.1 counted).1⟩
          exact Int.ofNat_le.1 most
    · rintro ⟨most, written | ⟨_, digits, numeral, rfl⟩⟩
      · have within : port ≤ twoTo 63 - 1 :=
          Nat.le_trans most (by decide)
        rw [readNatural_eq_ok_iff.2 ⟨written, within⟩]
        exact ⟨port, rfl, by omega, rfl⟩
      · obtain ⟨digit, rest, rfl⟩ := List.exists_cons_of_ne_nil numeral.some
        exact absurd rfl (unsigned digit rest)

end Numbers

section Commas

/-- The code of a comma. -/
def comma : UInt8 := 44

theorem splitCommas_ne_nil (bytes : Bytes) : splitCommas bytes ≠ [] := by
  induction bytes with
  | nil =>
      exact List.cons_ne_nil _ _
  | cons byte rest inductionHypothesis =>
      obtain ⟨first, others, shape⟩ := List.exists_cons_of_ne_nil inductionHypothesis
      rw [splitCommas, shape]
      simp only
      split <;> exact List.cons_ne_nil _ _

/-- What is split at commas is put together with commas again. -/
theorem intercalate_splitCommas (bytes : Bytes) :
    [comma].intercalate (splitCommas bytes) = bytes := by
  induction bytes with
  | nil =>
      rfl
  | cons byte rest inductionHypothesis =>
      obtain ⟨first, others, shape⟩ := List.exists_cons_of_ne_nil (splitCommas_ne_nil rest)
      rw [shape] at inductionHypothesis
      rw [splitCommas, shape]
      simp only
      split
      next isComma =>
        rw [List.intercalate_cons_cons, inductionHypothesis, isComma]
        rfl
      next =>
        rw [← inductionHypothesis]
        cases others with
        | nil =>
            simp
        | cons second others =>
            simp [List.intercalate_cons_cons]

/-- No piece between commas holds one. -/
theorem comma_not_mem_of_mem_splitCommas
    {bytes piece : Bytes}
    (member : piece ∈ splitCommas bytes) :
    comma ∉ piece := by
  induction bytes generalizing piece with
  | nil =>
      rw [List.mem_singleton.1 member]
      exact List.not_mem_nil
  | cons byte rest inductionHypothesis =>
      obtain ⟨first, others, shape⟩ := List.exists_cons_of_ne_nil (splitCommas_ne_nil rest)
      rw [shape] at inductionHypothesis
      rw [splitCommas, shape] at member
      simp only at member
      split at member
      next =>
        rcases List.mem_cons.1 member with rfl | later
        · exact List.not_mem_nil
        · exact inductionHypothesis later
      next other =>
        rcases List.mem_cons.1 member with rfl | later
        · rw [List.mem_cons, not_or]
          exact ⟨Ne.symm other, inductionHypothesis List.mem_cons_self⟩
        · exact inductionHypothesis (List.mem_cons_of_mem _ later)

/-- A piece ends at the first comma. -/
theorem splitCommas_append_comma
    {piece : Bytes}
    (free : comma ∉ piece)
    (rest : Bytes) :
    splitCommas (piece ++ comma :: rest) = piece :: splitCommas rest := by
  induction piece with
  | nil =>
      obtain ⟨first, others, shape⟩ := List.exists_cons_of_ne_nil (splitCommas_ne_nil rest)
      rw [List.nil_append, splitCommas, shape]
      rfl
  | cons byte piece inductionHypothesis =>
      rw [List.mem_cons, not_or] at free
      rw [List.cons_append, splitCommas, inductionHypothesis free.2]
      exact if_neg (Ne.symm free.1)

/-- What holds no comma is one piece. -/
theorem splitCommas_of_not_mem
    {piece : Bytes}
    (free : comma ∉ piece) :
    splitCommas piece = [piece] := by
  induction piece with
  | nil =>
      rfl
  | cons byte piece inductionHypothesis =>
      rw [List.mem_cons, not_or] at free
      rw [splitCommas, inductionHypothesis free.2]
      exact if_neg (Ne.symm free.1)

/-- Pieces without commas are what their joined bytes are split into. -/
theorem splitCommas_intercalate
    {pieces : List Bytes}
    (some : pieces ≠ [])
    (free : ∀ piece ∈ pieces, comma ∉ piece) :
    splitCommas ([comma].intercalate pieces) = pieces := by
  induction pieces with
  | nil =>
      exact absurd rfl some
  | cons piece others inductionHypothesis =>
      rw [List.forall_mem_cons] at free
      cases others with
      | nil =>
          rw [List.intercalate_singleton, splitCommas_of_not_mem free.1]
      | cons second others =>
          rw [List.intercalate_cons_cons, List.append_assoc, List.singleton_append,
            splitCommas_append_comma free.1,
            inductionHypothesis (List.cons_ne_nil _ _) free.2]

theorem comma_mem_encode_iff (text : String) :
    comma ∈ Text.Utf8.encode text ↔ ',' ∈ text.toList :=
  Text.Utf8.mem_encode_iff (by decide) rfl text

end Commas

namespace Flag

/-- What an option gives to the configuration. -/
@[reducible] def Value : Flag → Type
  | .host => String
  | .port => Nat
  | .workers => Nat
  | .indexPath => Bytes
  | .workDirectory => Bytes
  | .compiler => String
  | .compilerFlags => List String
  | .timeout => Nat
  | .rateLimit => Nat
  | .allowRoot => Bool

/-- A raw value that writes a number of at most 64 bits. -/
def MeansNumber (raws : List Bytes) (value : Nat) : Prop :=
  ∃ text : String, raws = [Text.Utf8.encode text] ∧ WritesNatural text.toList value ∧
    value < 2 ^ 64

/-- What the raw values of an option stand for, in the type of the option. Each raw value of the
flags for the compiler is a group of them, joined with commas. -/
def Means : (flag : Flag) → List Bytes → flag.Value → Prop
  | .host, raws, text => raws = [Text.Utf8.encode text]
  | .port, raws, value =>
    ∃ text : String, raws = [Text.Utf8.encode text] ∧ WritesPort text.toList value
  | .workers, raws, value => MeansNumber raws value
  | .indexPath, raws, path => raws = [path] ∧ path ≠ []
  | .workDirectory, raws, path => raws = [path] ∧ path ≠ []
  | .compiler, raws, text => raws = [Text.Utf8.encode text]
  | .compilerFlags, raws, texts =>
    ∃ groups : List (List String), texts = groups.flatten ∧
      raws = groups.map (fun group => [comma].intercalate (group.map Text.Utf8.encode)) ∧
        ∀ group ∈ groups, group ≠ [] ∧ ∀ text ∈ group, ',' ∉ text.toList
  | .timeout, raws, value => MeansNumber raws value
  | .rateLimit, raws, value => MeansNumber raws value
  | .allowRoot, raws, isOn => raws = [Text.Utf8.encode (if isOn then "true" else "false")]

/-- Read the single values of an option. -/
def reading : (flag : Flag) → List Bytes → Except Failure flag.Value
  | .host, pieces => acceptText (Config.single pieces)
  | .port, pieces => acceptPort (Config.single pieces)
  | .workers, pieces => acceptNumber .workers (Config.single pieces)
  | .indexPath, pieces => acceptPath .indexPath (Config.single pieces)
  | .workDirectory, pieces => acceptPath .workDirectory (Config.single pieces)
  | .compiler, pieces => acceptText (Config.single pieces)
  | .compilerFlags, pieces => acceptTexts pieces
  | .timeout, pieces => acceptNumber .timeout (Config.single pieces)
  | .rateLimit, pieces => acceptNumber .rateLimit (Config.single pieces)
  | .allowRoot, pieces => acceptSwitch (Config.single pieces)

end Flag

section Reading

variable {raw : Bytes}

theorem acceptText_eq_ok_iff {text : String} :
    acceptText raw = .ok text ↔ raw = Text.Utf8.encode text := by
  rw [← Text.Utf8.decode?_eq_ok_iff]
  unfold acceptText
  split
  next other decoded =>
    simp [decoded]
  next fault decoded =>
    simp [decoded]

theorem acceptNumber_eq_ok_iff {flag : Flag} {value : Nat} :
    acceptNumber flag raw = .ok value ↔ Flag.MeansNumber [raw] value := by
  unfold acceptNumber Flag.MeansNumber
  simp only [List.cons.injEq, and_true, ← acceptText_eq_ok_iff]
  cases accepted : acceptText raw with
  | error failure =>
      simp
  | ok text =>
      simp only [Except.ok.injEq, exists_eq_left']
      have bound : value ≤ twoTo 64 - 1 ↔ value < 2 ^ 64 :=
        Nat.le_sub_one_iff_lt (twoTo_pos 64)
      rw [← bound, ← readNatural_eq_ok_iff]
      cases readNatural (twoTo 64 - 1) text.toList <;> simp [Except.mapError]

theorem acceptPort_eq_ok_iff {port : Nat} :
    acceptPort raw = .ok port ↔ Flag.port.Means [raw] port := by
  unfold acceptPort Flag.Means
  simp only [List.cons.injEq, and_true, ← acceptText_eq_ok_iff]
  cases accepted : acceptText raw with
  | error failure =>
      simp
  | ok text =>
      simp only [Except.ok.injEq, exists_eq_left']
      rw [← readInteger_isPort_iff]
      cases readInteger text.toList with
      | error fault =>
          simp
      | ok value =>
          simp only [Except.ok.injEq, exists_eq_left']
          split
          next within =>
            simp [within]
          next without =>
            simp only [reduceCtorEq, false_iff, not_and]
            exact fun within => absurd within without

theorem acceptPath_eq_ok_iff {flag : Flag} {path : Bytes} :
    acceptPath flag raw = .ok path ↔ [raw] = [path] ∧ path ≠ [] := by
  unfold acceptPath
  cases raw with
  | nil =>
      simp
  | cons byte rest =>
      simp
      rintro rfl
      exact List.cons_ne_nil _ _

theorem acceptSwitch_eq_ok_iff {isOn : Bool} :
    acceptSwitch raw = .ok isOn ↔ Flag.allowRoot.Means [raw] isOn := by
  unfold acceptSwitch Flag.Means
  simp only [beq_iff_eq, List.cons.injEq, and_true]
  constructor
  · intro accepted
    split_ifs at accepted with empty on off <;> cases accepted
    · exact Text.Utf8.eq_encode_of_decodeLossy on (by decide)
    · exact Text.Utf8.eq_encode_of_decodeLossy off (by decide)
  · rintro rfl
    rw [Text.Utf8.decodeLossy_encode]
    cases isOn <;> rfl

theorem acceptTexts_eq_ok_iff {raws : List Bytes} {texts : List String} :
    acceptTexts raws = .ok texts ↔ raws = texts.map Text.Utf8.encode := by
  induction raws generalizing texts with
  | nil =>
      simp [acceptTexts, eq_comm]
  | cons raw rest inductionHypothesis =>
      rw [acceptTexts]
      constructor
      · intro accepted
        split at accepted
        · cases accepted
        next text first =>
          cases accepts : acceptTexts rest with
          | error failure =>
              rw [accepts] at accepted
              cases accepted
          | ok others =>
              rw [accepts] at accepted
              cases accepted
              rw [List.map_cons, acceptText_eq_ok_iff.1 first, inductionHypothesis.1 accepts]
      · intro written
        cases texts with
        | nil =>
            cases written
        | cons text others =>
            rw [List.map_cons, List.cons.injEq] at written
            rw [acceptText_eq_ok_iff.2 written.1, inductionHypothesis.2 written.2]
            rfl

/-- Some texts are the groups whose pieces they are. -/
theorem flatMap_splitCommas_eq_iff {raws : List Bytes} {texts : List String} :
    raws.flatMap splitCommas = texts.map Text.Utf8.encode ↔
      Flag.compilerFlags.Means raws texts := by
  unfold Flag.Means
  constructor
  · intro same
    induction raws generalizing texts with
    | nil =>
        have none : texts = [] := by
          simpa using same.symm
        exact ⟨[], none, rfl, nofun⟩
    | cons raw rest inductionHypothesis =>
        rw [List.flatMap_cons] at same
        obtain ⟨group, others, rfl, first, later⟩ := List.append_eq_map_iff.1 same
        obtain ⟨groups, rfl, joined, free⟩ := inductionHypothesis later.symm
        refine ⟨group :: groups, rfl, ?_, ?_⟩
        · rw [List.map_cons, ← joined, first, intercalate_splitCommas]
        · rw [List.forall_mem_cons]
          refine ⟨⟨?_, ?_⟩, free⟩
          · rintro rfl
            exact splitCommas_ne_nil raw first.symm
          · intro text member
            rw [← comma_mem_encode_iff]
            have piece : Text.Utf8.encode text ∈ splitCommas raw := by
              rw [← first]
              exact List.mem_map_of_mem member
            exact comma_not_mem_of_mem_splitCommas piece
  · rintro ⟨groups, rfl, rfl, free⟩
    rw [List.flatMap_map, List.map_flatten, List.flatMap_def]
    congr 1
    apply List.map_congr_left
    intro group member
    obtain ⟨some, pieces⟩ := free group member
    apply splitCommas_intercalate
    · simpa using some
    · intro piece listed
      obtain ⟨text, isPiece, rfl⟩ := List.mem_map.1 listed
      rw [comma_mem_encode_iff]
      exact pieces text isPiece

end Reading

namespace Flag

variable {flag : Flag} {raws : List Bytes} {value : flag.Value}

/-- An option that does not repeat has its one raw value for a piece. -/
theorem pieces_of_single
    (single : flag.repeats = false)
    (raw : Bytes) :
    flag.pieces raw = [raw] := by
  rw [pieces, single]
  rfl

/-- Reading the pieces of raw values gives what the raw values stand for. -/
theorem reading_eq_ok_iff
    (shape : flag.repeats = false → ∃ raw, raws = [raw]) :
    flag.reading (raws.flatMap flag.pieces) = .ok value ↔ flag.Means raws value := by
  cases flag with
  | compilerFlags =>
      exact acceptTexts_eq_ok_iff.trans flatMap_splitCommas_eq_iff
  | host | compiler =>
      obtain ⟨raw, rfl⟩ := shape rfl
      simp only [Means, List.cons.injEq, and_true]
      exact acceptText_eq_ok_iff
  | port =>
      obtain ⟨raw, rfl⟩ := shape rfl
      exact acceptPort_eq_ok_iff
  | workers | timeout | rateLimit =>
      obtain ⟨raw, rfl⟩ := shape rfl
      exact acceptNumber_eq_ok_iff
  | indexPath | workDirectory =>
      obtain ⟨raw, rfl⟩ := shape rfl
      exact acceptPath_eq_ok_iff
  | allowRoot =>
      obtain ⟨raw, rfl⟩ := shape rfl
      exact acceptSwitch_eq_ok_iff

/-- A single value is checked by reading it. -/
theorem check_eq_reading (flag : Flag) (raw : Bytes) :
    flag.check raw = (flag.reading [raw]).map fun _ => () := by
  cases flag with
  | compilerFlags =>
      simp only [check, reading, acceptTexts]
      cases acceptText raw <;> rfl
  | _ =>
      rfl

theorem checkAll_eq_ok_iff {pieces : List Bytes} :
    flag.checkAll pieces = .ok () ↔ ∀ piece ∈ pieces, flag.check piece = .ok () := by
  induction pieces with
  | nil =>
      simp [checkAll]
  | cons piece rest inductionHypothesis =>
      rw [checkAll, List.forall_mem_cons, ← inductionHypothesis]
      cases flag.check piece <;> simp

/-- Values that are read pass the check. -/
theorem checkAll_of_reading
    {pieces : List Bytes}
    (shape : flag.repeats = false → ∃ raw, pieces = [raw])
    (read : flag.reading pieces = .ok value) :
    flag.checkAll pieces = .ok () := by
  cases flag with
  | compilerFlags =>
      rw [checkAll_eq_ok_iff]
      intro piece member
      rw [acceptTexts_eq_ok_iff.1 read] at member
      obtain ⟨text, _, rfl⟩ := List.mem_map.1 member
      rw [check, acceptText_eq_ok_iff.2 rfl]
      rfl
  | _ =>
      obtain ⟨raw, rfl⟩ := shape rfl
      simp only [checkAll, check_eq_reading, read]
      rfl

end Flag

end CompilePlayground.Options

namespace CompilePlayground.Config

open Options

/-- What an option has given to a configuration. -/
def field (config : Config) : (flag : Flag) → flag.Value
  | .host => config.host
  | .port => config.port
  | .workers => config.workers
  | .indexPath => config.indexPath
  | .workDirectory => config.workDirectory
  | .compiler => config.compiler
  | .compilerFlags => config.compilerFlags
  | .timeout => config.timeoutSeconds
  | .rateLimit => config.rateLimit
  | .allowRoot => config.allowRoot

theorem bind_eq_ok
    {α β : Type}
    {result : Except Failure α}
    {rest : α → Except Failure β}
    {value : β} :
    (result >>= rest) = .ok value ↔ ∃ before, result = .ok before ∧ rest before = .ok value := by
  cases result with
  | error failure =>
      constructor
      · intro made
        cases made
      · rintro ⟨_, made, _⟩
        cases made
  | ok before =>
      constructor
      · intro made
        exact ⟨before, rfl, made⟩
      · rintro ⟨_, ⟨⟩, made⟩
        exact made

/-- Every field is read from the values of its own option. -/
theorem ofValues_eq_ok_iff {values : Flag → List Bytes} {config : Config} :
    ofValues values = .ok config ↔
      ∀ flag : Flag, flag.reading (values flag) = .ok (config.field flag) := by
  unfold ofValues
  simp only [bind_eq_ok]
  constructor
  · rintro ⟨_, host, _, port, _, workers, _, indexPath, _, workDirectory, _, compiler, _,
      compilerFlags, _, timeout, _, rateLimit, _, allowRoot, ⟨⟩⟩ flag
    cases flag <;> assumption
  · intro read
    exact ⟨_, read .host, _, read .port, _, read .workers, _, read .indexPath, _,
      read .workDirectory, _, read .compiler, _, read .compilerFlags, _, read .timeout, _,
      read .rateLimit, _, read .allowRoot, rfl⟩

end CompilePlayground.Config
