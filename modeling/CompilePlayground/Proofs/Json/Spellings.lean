import CompilePlayground.Proofs.Json.Messages
import CompilePlayground.Service.Endpoint

namespace CompilePlayground

open Json Text

/-!
# Messages of the extension in all their forms

A message may be spelled as an object with its members in either order, or as a list, and a missing
argument is null. What is logged for the argument is the argument itself if it is a text, and
otherwise a text from which the argument can be read.
-/

namespace Json

/-- A value fits wherever more room is left. -/
theorem Value.Fits.mono
    {depth more : Nat}
    {value : Value}
    (fits : value.Fits depth)
    (wider : depth ≤ more) :
    value.Fits more := by
  induction fits generalizing more with
  | null =>
      exact .null
  | boolean value =>
      exact .boolean value
  | number value =>
      exact .number value
  | text value =>
      exact .text value
  | list _ inductionHypothesis =>
      cases more with
      | zero =>
          cases wider
      | succ more =>
          exact .list fun item member =>
            inductionHypothesis item member (Nat.le_of_succ_le_succ wider)
  | object ascending _ inductionHypothesis =>
      cases more with
      | zero =>
          cases wider
      | succ more =>
          exact .object ascending fun member inside =>
            inductionHypothesis member inside (Nat.le_of_succ_le_succ wider)

namespace RecordKind

variable {σ : Type}

/-- The items of a list set the fields of a record in their order, and none that is needed is left
out. -/
inductive Lists : List (Field σ) → σ → List Value → σ → Prop where
  | done {record : σ} :
      Lists [] record [] record
  | omitted {field : Field σ} {fields : List (Field σ)} {record final : σ} :
      field.neededInList = false →
      Lists fields record [] final →
      Lists (field :: fields) record [] final
  | next {field : Field σ} {fields : List (Field σ)} {record final : σ} {set : σ → σ}
      {item : Value} {items : List Value} :
      Leads item.bytes →
      Takes field.read item.bytes set →
      Lists fields (set record) items final →
      Lists (field :: fields) record (item :: items) final

/-- The items that are written are read into the record, up to the bracket that ends them. -/
theorem readItems_written
    (kind : RecordKind σ)
    {fields : List (Field σ)}
    {record final : σ}
    {items : List Value}
    (lists : Lists fields record items final)
    (position : Nat)
    {cursor : Cursor}
    {rest : Bytes}
    (stands : cursor.rest =
      parted (decide (position = 0)) (items.map Value.bytes) ++ 0x5D :: rest) :
    ∃ last, kind.readItems position record fields cursor = .ok (final, last) ∧
      last.rest = 0x5D :: rest := by
  induction lists generalizing position cursor with
  | done =>
      exact ⟨cursor, rfl, stands⟩
  | omitted needless _ inductionHypothesis =>
      obtain ⟨last, others, ends⟩ := inductionHypothesis (position + 1) stands
      refine ⟨last, ?_, ends⟩
      rw [readItems, hasNextItem_end _ stands]
      simp only [needless, Bool.false_eq_true, if_false]
      exact others
  | next leads takes _ inductionHypothesis =>
      rw [List.map_cons, parted, List.append_assoc] at stands
      obtain ⟨next, follows, begins⟩ := hasNextItem_written _ leads stands
      obtain ⟨between, reads, after⟩ := takes next _ (closes_parted _ rest (.inl rfl)) begins
      obtain ⟨last, others, ends⟩ := inductionHypothesis (position + 1) after
      refine ⟨last, ?_, ends⟩
      rw [readItems, follows]
      simp only [reads, inPart]
      exact others

/-- A record is read from a list of its fields. -/
theorem takes_read_of_lists
    {kind : RecordKind σ}
    {blank final : σ}
    {items : List Value}
    (lists : Lists kind.fields blank items final) :
    Takes (kind.read blank) (Value.list items).bytes final := by
  intro cursor rest _ stands
  rw [Value.bytes_list, List.cons_append, List.append_assoc] at stands
  obtain ⟨last, reads, ends⟩ :=
    readItems_written kind lists 0 (Cursor.rest_advance stands)
  refine ⟨last.advance, ?_, Cursor.rest_advance ends⟩
  unfold read
  simp only [Cursor.skipBlank_eq stands (by decide), Cursor.peek?_eq stands, reads, andThen,
    readListEnd, Cursor.skipBlank_eq ends (by decide), Cursor.peek?_eq ends]

end RecordKind

end Json

namespace ExtensionRequest

/-- The forms in which a message may be spelled. -/
inductive Spells (message : ExtensionRequest) : Json.Value → Prop where
  | object :
      Spells message (.object [("action", .text message.action), ("arg", message.argument)])
  | turned :
      Spells message (.object [("arg", message.argument), ("action", .text message.action)])
  | bareObject (absent : message.argument = .null) :
      Spells message (.object [("action", .text message.action)])
  | list :
      Spells message (.list [.text message.action, message.argument])
  | bareList (absent : message.argument = .null) :
      Spells message (.list [.text message.action])

/-- A message is read from whichever form it is spelled in. -/
theorem read_of_spells
    {message : ExtensionRequest}
    {value : Json.Value}
    (spells : message.Spells value)
    (fits : message.argument.Fits 126)
    (whole : message.argument.IsWhole) :
    read (Utf8.encode value.write) = .ok message := by
  have readsText := takes_readText message.action
  have readsArgument := takes_readValue fits whole
  have textLeads : Leads (Value.text message.action).bytes :=
    leads_bytes fun _ holds => nomatch holds
  obtain ⟨parts, same, takes⟩ : ∃ parts, ofParts parts = message ∧
      Takes (kind.read ⟨none, none⟩) value.bytes parts := by
    cases spells with
    | object =>
        exact ⟨_, rfl, takes_kind fits whole⟩
    | turned =>
        refine ⟨⟨some message.action, some message.argument⟩, rfl, RecordKind.takes_read ?_⟩
        refine .next (by simp [kind]; rfl) rfl (readsArgument.andThen _) ?_
        exact .next (by simp [kind]; rfl) rfl (readsText.andThen _) (.done rfl)
    | bareObject absent =>
        refine ⟨⟨some message.action, none⟩, by rw [ofParts, Option.getD_none, ← absent]; rfl,
          RecordKind.takes_read ?_⟩
        exact .next (by simp [kind]; rfl) rfl (readsText.andThen _) (.done rfl)
    | list =>
        refine ⟨⟨some message.action, some message.argument⟩, rfl,
          RecordKind.takes_read_of_lists ?_⟩
        refine .next textLeads (readsText.andThen _) ?_
        exact .next (leads_bytes whole) (readsArgument.andThen _) .done
    | bareList absent =>
        refine ⟨⟨some message.action, none⟩, by rw [ofParts, Option.getD_none, ← absent]; rfl,
          RecordKind.takes_read_of_lists ?_⟩
        exact .next textLeads (readsText.andThen _) (.omitted rfl .done)
  have taken := readWhole_of_takes takes
  change (readWhole _ value.bytes).map ofParts = _
  rw [taken, ← same]
  rfl

end ExtensionRequest

namespace Endpoint

/-- Some words stand for an argument: they are the argument itself if it is a text, and otherwise,
if its numbers are whole, the argument can be read from them. -/
structure Words (argument : Json.Value) (words : String) : Prop where
  text : ∀ text, argument = .text text → words = text
  other : (∀ text, argument ≠ .text text) → argument.IsWhole →
    readWhole (readValue depthLimit) (Utf8.encode words) = .ok argument

/-- What is logged for the argument of a message that was read stands for the argument. -/
theorem words_logged
    {text : Bytes}
    {message : ExtensionRequest}
    (reads : ExtensionRequest.read text = .ok message) :
    Words message.argument (logged message.argument) where
  text text same := by
    rw [same]
    rfl
  other another whole := by
    have written : logged message.argument = message.argument.write := by
      unfold logged
      split
      next words same =>
        exact absurd same (another words)
      next =>
        rfl
    have fits : message.argument.Fits depthLimit :=
      (ExtensionRequest.fits_of_read reads).mono (by decide)
    rw [written]
    exact readWhole_of_takes (takes_readValue fits whole)

end Endpoint

end CompilePlayground
