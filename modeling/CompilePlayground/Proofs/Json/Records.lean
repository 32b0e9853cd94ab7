import CompilePlayground.Json.Record
import CompilePlayground.Proofs.Json.Values

namespace CompilePlayground.Json

/-!
# Records that are written are read back

A record is written as an object that names each field once. It is read back field by field, if
what is written for every field is what the reader of the field takes.
-/

/-! ## Fields -/

/-- A reader whose value is changed takes what it took. -/
theorem Takes.andThen
    {α β : Type}
    {read : Cursor → Outcome α}
    {written : Bytes}
    {value : α}
    (takes : Takes read written value)
    (change : α → β) :
    Takes (fun cursor => Json.andThen (read cursor) fun value later => .ok (change value, later))
      written (change value) := by
  intro cursor rest closes stands
  obtain ⟨later, reads, after⟩ := takes cursor rest closes stands
  refine ⟨later, ?_, after⟩
  simp only [reads]
  rfl

theorem takes_readText (text : String) : Takes readText (Value.text text).bytes text := by
  intro cursor rest _ stands
  rw [Value.bytes_text, List.cons_append, List.append_assoc] at stands
  obtain ⟨later, reads, after⟩ := readString_quoted (Cursor.rest_advance stands)
  refine ⟨later, ?_, after⟩
  unfold readText
  simp only [Cursor.skipBlank_eq stands (by decide), Cursor.peek?_eq stands]
  exact reads

theorem takes_readBoolean (value : Bool) : Takes readBoolean (Value.boolean value).bytes value := by
  intro cursor rest _ stands
  cases value with
  | true =>
      rw [Value.bytes_true] at stands
      obtain ⟨later, reads, after⟩ := readWord_written (Cursor.rest_advance stands)
      refine ⟨later, ?_, after⟩
      unfold readBoolean
      simp only [Cursor.skipBlank_eq stands (by decide), Cursor.peek?_eq stands, reads]
      rfl
  | false =>
      rw [Value.bytes_false] at stands
      obtain ⟨later, reads, after⟩ := readWord_written (Cursor.rest_advance stands)
      refine ⟨later, ?_, after⟩
      unfold readBoolean
      simp only [Cursor.skipBlank_eq stands (by decide), Cursor.peek?_eq stands, reads]
      rfl

/-- A text may stand as null. -/
theorem takes_readText? (text? : Option String) :
    Takes readText? (match text? with
      | some text => Value.text text
      | none => Value.null).bytes text? := by
  intro cursor rest closes stands
  cases text? with
  | none =>
      rw [Value.bytes_null] at stands
      obtain ⟨later, reads, after⟩ := readWord_written (Cursor.rest_advance stands)
      refine ⟨later, ?_, after⟩
      unfold readText?
      simp only [Cursor.skipBlank_eq stands (by decide), Cursor.peek?_eq stands, reads]
      rfl
  | some text =>
      obtain ⟨later, reads, after⟩ := takes_readText text cursor rest closes stands
      rw [Value.bytes_text] at stands
      refine ⟨later, ?_, after⟩
      unfold readText?
      simp only [Cursor.skipBlank_eq stands (by decide), Cursor.peek?_eq stands]
      rw [reads]
      rfl

/-- Each part has a byte at least. -/
theorem length_le_parted
    {α : Type}
    (isFirst : Bool)
    (items : List α)
    (written : α → Bytes)
    (filled : ∀ item ∈ items, 0 < (written item).length) :
    items.length ≤ (parted isFirst (items.map written)).length := by
  induction items generalizing isFirst with
  | nil =>
      exact Nat.zero_le _
  | cons item items inductionHypothesis =>
      have rest := inductionHypothesis false fun other member =>
        filled other (List.mem_cons_of_mem _ member)
      have positive := filled item List.mem_cons_self
      rw [List.map_cons, parted, List.length_append, List.length_cons]
      cases isFirst with
      | true =>
          simp only [if_true]
          omega
      | false =>
          simp only [Bool.false_eq_true, if_false, List.length_cons]
          omega

/-! ## Objects -/

namespace RecordKind

variable {σ : Type} {kind : RecordKind σ}

/-- The members of an object set the fields of a record one after the other, and none that is
needed is left out. -/
inductive Sets (kind : RecordKind σ) : σ → List (String × Value) → σ → Prop where
  | done {record : σ} :
      kind.missing? record = none →
      Sets kind record [] record
  | next {record final : σ} {field : Field σ} {set : σ → σ} {member : String × Value}
      {members : List (String × Value)} :
      kind.fields.find? (·.name = member.1) = some field →
      field.isSet record = false →
      Takes field.read member.2.bytes set →
      Sets kind (set record) members final →
      Sets kind record (member :: members) final

/-- The members that are written are read into the record. -/
theorem readMembers_written
    {record final : σ}
    {members : List (String × Value)}
    (sets : Sets kind record members final)
    (isFirst : Bool)
    {steps : Nat}
    {cursor : Cursor}
    {rest : Bytes}
    (enough : members.length < steps)
    (stands : cursor.rest = parted isFirst (members.map memberBytes) ++ 0x7D :: rest) :
    ∃ last, kind.readMembers isFirst record steps cursor = .ok (final, last) ∧
      last.advance.rest = rest := by
  induction sets generalizing isFirst steps cursor with
  | done complete =>
      cases steps with
      | zero =>
          exact absurd enough (Nat.not_lt_zero _)
      | succ steps =>
          refine ⟨cursor, ?_, Cursor.rest_advance stands⟩
          rw [readMembers, hasNextMember_end _ stands]
          simp only [complete]
  | @next record final field set member members named open_ takes _ inductionHypothesis =>
      cases steps with
      | zero =>
          exact absurd enough (Nat.not_lt_zero _)
      | succ steps =>
          rw [List.map_cons, parted, List.append_assoc] at stands
          obtain ⟨next, colon, atValue, follows, readsKey, readsColon, begins⟩ :=
            readKey_written stands
          obtain ⟨between, reads, after⟩ :=
            takes atValue _ (closes_parted _ rest (.inr rfl)) begins
          obtain ⟨last, others, ends⟩ :=
            inductionHypothesis false (Nat.lt_of_succ_lt_succ enough) after
          refine ⟨last, ?_, ends⟩
          rw [readMembers, follows]
          simp only [readsKey, named, open_, Bool.false_eq_true, if_false, readsColon, reads, inPart]
          exact others

/-- A record is read from the object that is written for it. -/
theorem takes_read
    {blank final : σ}
    {members : List (String × Value)}
    (sets : Sets kind blank members final) :
    Takes (kind.read blank) (Value.object members).bytes final := by
  intro cursor rest _ stands
  rw [Value.bytes_object, List.cons_append, List.append_assoc] at stands
  have enough : members.length < cursor.rest.length + 1 := by
    have count := length_le_parted true members memberBytes fun _ _ => Nat.succ_pos _
    rw [stands, List.length_cons, List.length_append]
    omega
  obtain ⟨last, reads, ends⟩ :=
    readMembers_written sets true enough (Cursor.rest_advance stands)
  refine ⟨last.advance, ?_, ends⟩
  unfold read
  simp only [Cursor.skipBlank_eq stands (by decide), Cursor.peek?_eq stands, reads]
  rfl

end RecordKind

/-! ## Lists and whole texts -/

/-- The records that are written are read onto those before them. -/
theorem readListItems_written
    {α : Type}
    {readItem : Cursor → Outcome α}
    {items : List (Value × α)}
    (each : ∀ item ∈ items, Leads item.1.bytes ∧ Takes readItem item.1.bytes item.2)
    (read : List α)
    {steps : Nat}
    {cursor : Cursor}
    {rest : Bytes}
    (enough : items.length < steps)
    (stands : cursor.rest = parted read.isEmpty (items.map (·.1.bytes)) ++ 0x5D :: rest) :
    ∃ later, readListItems readItem read steps cursor =
        .ok (read.reverse ++ items.map (·.2), later) ∧
      later.rest = rest := by
  induction items generalizing read steps cursor with
  | nil =>
      cases steps with
      | zero =>
          exact absurd enough (Nat.not_lt_zero _)
      | succ steps =>
          refine ⟨cursor.advance, ?_, Cursor.rest_advance stands⟩
          rw [readListItems, hasNextItem_end _ stands]
          simp
  | cons item items inductionHypothesis =>
      cases steps with
      | zero =>
          exact absurd enough (Nat.not_lt_zero _)
      | succ steps =>
          rw [List.map_cons, parted, List.append_assoc] at stands
          obtain ⟨leads, takes⟩ := each item List.mem_cons_self
          obtain ⟨next, follows, begins⟩ := hasNextItem_written read.isEmpty leads stands
          obtain ⟨between, reads, after⟩ :=
            takes next _ (closes_parted _ rest (.inl rfl)) begins
          obtain ⟨later, others, ends⟩ := inductionHypothesis
            (fun other member => each other (List.mem_cons_of_mem _ member))
            (item.2 :: read) (Nat.lt_of_succ_lt_succ enough) after
          refine ⟨later, ?_, ends⟩
          rw [readListItems, follows]
          simp only [reads, others]
          simp

/-- A list of records is read from the list that is written for it. -/
theorem takes_readList
    {α : Type}
    {readItem : Cursor → Outcome α}
    {items : List (Value × α)}
    (each : ∀ item ∈ items, Leads item.1.bytes ∧ Takes readItem item.1.bytes item.2) :
    Takes (readList readItem) (Value.list (items.map (·.1))).bytes (items.map (·.2)) := by
  intro cursor rest _ stands
  rw [Value.bytes_list, List.cons_append, List.append_assoc, List.map_map] at stands
  have enough : items.length < cursor.rest.length + 1 := by
    have count := length_le_parted true items (Value.bytes ∘ (·.1)) fun item member => by
      obtain ⟨⟨byte, more, shape, _, _⟩, _⟩ := each item member
      rw [Function.comp_apply, shape]
      exact Nat.succ_pos _
    rw [stands, List.length_cons, List.length_append]
    omega
  obtain ⟨later, reads, ends⟩ :=
    readListItems_written each [] enough (Cursor.rest_advance stands)
  refine ⟨later, ?_, ends⟩
  unfold readList
  simp only [Cursor.skipBlank_eq stands (by decide), Cursor.peek?_eq stands]
  exact reads

/-- A whole text is what is written for the value. -/
theorem readWhole_of_takes
    {α : Type}
    {read : Cursor → Outcome α}
    {written : Bytes}
    {value : α}
    (takes : Takes read written value) :
    readWhole read written = .ok value := by
  obtain ⟨later, reads, ends⟩ := takes (Cursor.start written) [] (.inl rfl)
    (List.append_nil written).symm
  have finished : readEnd later = .ok () := by
    unfold readEnd
    rw [Cursor.skipBlank_eq_of_nil ends]
    simp only [Cursor.peek?_eq_none ends]
  rw [readWhole, reads]
  simp only [finished]
  rfl

/-- What a whole text is read as was read from its beginning. -/
theorem exists_of_readWhole
    {α : Type}
    {read : Cursor → Outcome α}
    {input : Bytes}
    {value : α}
    (reads : readWhole read input = .ok value) :
    ∃ later, read (Cursor.start input) = .ok (value, later) := by
  unfold readWhole at reads
  split at reads
  · cases reads
  · next found later same =>
      cases ended : readEnd later with
      | error fault =>
          rw [ended] at reads
          cases reads
      | ok nothing =>
          rw [ended] at reads
          cases reads
          exact ⟨later, same⟩

/-! ## What every record that is read has -/

theorem exists_of_andThen
    {α β : Type}
    {outcome : Outcome α}
    {following : α → Cursor → Outcome β}
    {result : β × Cursor}
    (reads : andThen outcome following = .ok result) :
    ∃ value between, outcome = .ok (value, between) ∧ following value between = .ok result := by
  cases outcome with
  | error fault =>
      cases reads
  | ok read =>
      exact ⟨read.1, read.2, rfl, reads⟩

/-- Where another type is expected nothing is read. -/
theorem failType_ne_ok
    {α : Type}
    {expected : String}
    {cursor : Cursor}
    {result : α × Cursor} :
    failType expected cursor ≠ .ok result := by
  intro reads
  unfold failType at reads
  simp only at reads
  split at reads
  · cases reads
  · split_ifs at reads
    all_goals
      first
      | cases reads
      | (obtain ⟨value, between, _, failed⟩ := exists_of_andThen reads
         cases failed)

namespace RecordKind

variable {σ : Type} {kind : RecordKind σ} {holds : σ → Prop}

/-- Whatever a field reads, setting it keeps what holds. -/
def Keeps (kind : RecordKind σ) (holds : σ → Prop) : Prop :=
  ∀ field ∈ kind.fields, ∀ cursor set later, field.read cursor = .ok (set, later) →
    ∀ record, holds record → holds (set record)

theorem exists_of_inPart
    {α : Type}
    {segment : Segment}
    {outcome : Outcome α}
    {result : α × Cursor}
    (reads : inPart segment outcome = .ok result) :
    outcome = .ok result := by
  cases outcome with
  | error fault =>
      cases reads
  | ok inner =>
      exact reads

/-- What holds of a record holds after its members are read. -/
theorem holds_of_readMembers
    (keeps : kind.Keeps holds)
    {isFirst : Bool}
    {record final : σ}
    {steps : Nat}
    {cursor later : Cursor}
    (held : holds record)
    (reads : kind.readMembers isFirst record steps cursor = .ok (final, later)) :
    holds final := by
  induction steps generalizing isFirst record cursor with
  | zero =>
      cases reads
  | succ steps inductionHypothesis =>
      rw [readMembers] at reads
      split at reads
      · cases reads
      · split at reads
        · cases reads
        · cases reads
          exact held
      · split at reads
        · cases reads
        · split at reads
          · split at reads
            · cases reads
            · split at reads
              · cases reads
              · exact inductionHypothesis held reads
          · next field found =>
              split at reads
              · cases reads
              · split at reads
                · cases reads
                · split at reads
                  · cases reads
                  · next set between readsField =>
                      exact inductionHypothesis
                        (keeps field (List.mem_of_find?_eq_some found) _ _ _
                          (exists_of_inPart readsField) record held)
                        reads

/-- What holds of a record holds after the items of a list are read into it. -/
theorem holds_of_readItems
    (keeps : kind.Keeps holds)
    {fields : List (Field σ)}
    (among : ∀ field ∈ fields, field ∈ kind.fields)
    {position : Nat}
    {record final : σ}
    {cursor later : Cursor}
    (held : holds record)
    (reads : kind.readItems position record fields cursor = .ok (final, later)) :
    holds final := by
  induction fields generalizing position record cursor with
  | nil =>
      cases reads
      exact held
  | cons field fields inductionHypothesis =>
      have others : ∀ other ∈ fields, other ∈ kind.fields := fun other member =>
        among other (List.mem_cons_of_mem _ member)
      rw [readItems] at reads
      split at reads
      · cases reads
      · split at reads
        · cases reads
        · exact inductionHypothesis others held reads
      · split at reads
        · cases reads
        · next set between readsField =>
            exact inductionHypothesis others
              (keeps field (among field List.mem_cons_self) _ _ _
                (exists_of_inPart readsField) record held)
              reads

/-- What holds of the blank record holds of the one that is read, from an object or a list. -/
theorem holds_of_read
    (keeps : kind.Keeps holds)
    {blank final : σ}
    {cursor later : Cursor}
    (held : holds blank)
    (reads : kind.read blank cursor = .ok (final, later)) :
    holds final := by
  unfold read at reads
  simp only at reads
  split at reads
  · cases reads
  · obtain ⟨read, between, items, reads⟩ := exists_of_andThen reads
    obtain ⟨_, last, _, reads⟩ := exists_of_andThen reads
    cases reads
    exact holds_of_readItems keeps (fun _ member => member) held items
  · obtain ⟨read, between, members, reads⟩ := exists_of_andThen reads
    cases reads
    exact holds_of_readMembers keeps held members
  · exact absurd reads failType_ne_ok

end RecordKind

end CompilePlayground.Json
