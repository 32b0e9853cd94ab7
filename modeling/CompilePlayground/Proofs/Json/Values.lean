import CompilePlayground.Json.Reader
import CompilePlayground.Proofs.Json.Scalars

namespace CompilePlayground.Json

open Text

/-!
# Values that are written are read back

A value is read back from what is written for it, if its numbers are whole, its objects hold their
members in the order of their keys, and it is not nested too deeply for the reader. What the reader
gives for any input is ordered, and not nested more deeply than the reader goes.
-/

/-- A value that is nested to a depth at most, and whose objects hold their members in order. -/
inductive Value.Fits : Nat → Value → Prop where
  | null {depth : Nat} :
      Fits depth .null
  | boolean {depth : Nat} (value : Bool) :
      Fits depth (.boolean value)
  | number {depth : Nat} (value : Number) :
      Fits depth (.number value)
  | text {depth : Nat} (value : String) :
      Fits depth (.text value)
  | list {depth : Nat} {items : List Value} :
      (∀ item ∈ items, Fits depth item) →
      Fits (depth + 1) (.list items)
  | object {depth : Nat} {members : List (String × Value)} :
      Ascending members →
      (∀ member ∈ members, Fits depth member.2) →
      Fits (depth + 1) (.object members)

/-- A number occurs in a value. -/
inductive Value.Holds (number : Number) : Value → Prop where
  | here :
      Holds number (.number number)
  | item {item : Value} {items : List Value} :
      item ∈ items →
      Holds number item →
      Holds number (.list items)
  | member {member : String × Value} {members : List (String × Value)} :
      member ∈ members →
      Holds number member.2 →
      Holds number (.object members)

/-- All numbers of a value are whole. -/
def Value.IsWhole (value : Value) : Prop :=
  ∀ number, value.Holds number → number.IsWhole

/-- What holds of a list if it holds of its items, and of an object if it holds of its members. -/
theorem Value.induction
    {motive : Value → Prop}
    (null : motive .null)
    (boolean : ∀ value, motive (.boolean value))
    (number : ∀ value, motive (.number value))
    (text : ∀ value, motive (.text value))
    (list : ∀ items, (∀ item ∈ items, motive item) → motive (.list items))
    (object : ∀ members : List (String × Value),
      (∀ member ∈ members, motive member.2) → motive (.object members)) :
    ∀ value, motive value
  | .null => null
  | .boolean value => boolean value
  | .number value => number value
  | .text value => text value
  | .list items => list items fun item _ =>
      Value.induction null boolean number text list object item
  | .object members => object members fun member _ =>
      Value.induction null boolean number text list object member.2
termination_by value => sizeOf value
decreasing_by
  · have smaller := List.sizeOf_lt_of_mem ‹item ∈ items›
    simp only [Value.list.sizeOf_spec]
    omega
  · have smaller := List.sizeOf_lt_of_mem ‹member ∈ members›
    have inside : sizeOf member.2 < sizeOf member := by
      cases member
      simp only [Prod.mk.sizeOf_spec]
      omega
    simp only [Value.object.sizeOf_spec]
    omega

/-! ## What is written -/

/-- What is written for a value. -/
def Value.bytes (value : Value) : Bytes :=
  Utf8.encode value.write

/-- What is written for a member of an object. -/
def memberBytes (member : String × Value) : Bytes :=
  0x22 :: (quoted member.1 ++ 0x22 :: 0x3A :: member.2.bytes)

/-- Parts with commas between them. -/
def parted (isFirst : Bool) : List Bytes → Bytes
  | [] => []
  | part :: parts => (if isFirst then part else 0x2C :: part) ++ parted false parts

theorem encode_empty : Utf8.encode "" = [] := by
  rw [Utf8.encode_eq]
  rfl

theorem encode_push (written : String) {character : Char} {byte : UInt8}
    (single : String.utf8EncodeChar character = [byte]) :
    Utf8.encode (written.push character) = Utf8.encode written ++ [byte] := by
  rw [Utf8.encode_eq, Utf8.encode_eq, String.toList_push, List.flatMap_append,
    List.flatMap_singleton, single]

theorem encode_writeItems
    {items : List Value}
    (each : ∀ item ∈ items, ∀ written,
      Utf8.encode (item.writeOnto written) = Utf8.encode written ++ item.bytes)
    (isFirst : Bool)
    (written : String) :
    Utf8.encode (writeItems isFirst written items) =
      Utf8.encode written ++ parted isFirst (items.map Value.bytes) := by
  induction items generalizing isFirst written with
  | nil =>
      simp [writeItems, parted]
  | cons item items inductionHypothesis =>
      have comma : String.utf8EncodeChar ',' = [0x2C] := by
        decide
      rw [writeItems, inductionHypothesis fun other member => each other (List.mem_cons_of_mem _ member),
        each item List.mem_cons_self, List.map_cons, parted]
      cases isFirst with
      | true =>
          simp
      | false =>
          simp [encode_push _ comma]

theorem encode_writeMembers
    {members : List (String × Value)}
    (each : ∀ member ∈ members, ∀ written,
      Utf8.encode (member.2.writeOnto written) = Utf8.encode written ++ member.2.bytes)
    (isFirst : Bool)
    (written : String) :
    Utf8.encode (writeMembers isFirst written members) =
      Utf8.encode written ++ parted isFirst (members.map memberBytes) := by
  induction members generalizing isFirst written with
  | nil =>
      simp [writeMembers, parted]
  | cons member members inductionHypothesis =>
      have comma : String.utf8EncodeChar ',' = [0x2C] := by
        decide
      have colon : String.utf8EncodeChar ':' = [0x3A] := by
        decide
      obtain ⟨key, value⟩ := member
      rw [writeMembers,
        inductionHypothesis fun other member => each other (List.mem_cons_of_mem _ member),
        each (key, value) List.mem_cons_self, encode_push _ colon, encode_writeString,
        List.map_cons, parted]
      cases isFirst with
      | true =>
          simp [memberBytes]
      | false =>
          simp [memberBytes, encode_push _ comma]

/-- A value is written after what is there. -/
theorem encode_writeOnto (value : Value) (written : String) :
    Utf8.encode (value.writeOnto written) = Utf8.encode written ++ value.bytes := by
  have opening : String.utf8EncodeChar '[' = [0x5B] := by
    decide
  have closing : String.utf8EncodeChar ']' = [0x5D] := by
    decide
  have openingBrace : String.utf8EncodeChar '\x7b' = [0x7B] := by
    decide
  have closingBrace : String.utf8EncodeChar '\x7d' = [0x7D] := by
    decide
  induction value using Value.induction generalizing written with
  | null =>
      simp [Value.bytes, Value.write, Value.writeOnto, Utf8.encode_append]
  | boolean value =>
      cases value <;> simp [Value.bytes, Value.write, Value.writeOnto, Utf8.encode_append]
  | number value =>
      simp [Value.bytes, Value.write, Value.writeOnto, Utf8.encode_append]
  | text value =>
      simp only [Value.bytes, Value.write, Value.writeOnto, encode_writeString, encode_empty,
        List.nil_append]
  | list items each =>
      simp only [Value.bytes, Value.write, Value.writeOnto, encode_push _ opening,
        encode_push _ closing, encode_writeItems each, encode_empty, List.nil_append,
        List.append_assoc]
  | object members each =>
      simp only [Value.bytes, Value.write, Value.writeOnto, encode_push _ openingBrace,
        encode_push _ closingBrace, encode_writeMembers each, encode_empty, List.nil_append,
        List.append_assoc]

namespace Value

theorem bytes_null : null.bytes = 0x6E :: [0x75, 0x6C, 0x6C] := by
  rw [bytes, Utf8.encode_eq]
  rfl

theorem bytes_true : (boolean true).bytes = 0x74 :: [0x72, 0x75, 0x65] := by
  rw [bytes, Utf8.encode_eq]
  rfl

theorem bytes_false : (boolean false).bytes = 0x66 :: [0x61, 0x6C, 0x73, 0x65] := by
  rw [bytes, Utf8.encode_eq]
  rfl

theorem bytes_natural (value : Nat) :
    (number (.integer value)).bytes = Utf8.encode (toString value) := by
  rw [bytes, write, writeOnto, Utf8.encode_append, encode_empty]
  rfl

theorem bytes_negative (value : Nat) :
    (number (.integer (Int.negSucc value))).bytes =
      0x2D :: Utf8.encode (toString (value + 1)) := by
  have shown : (Number.integer (Int.negSucc value)).write = "-" ++ toString (value + 1) :=
    rfl
  rw [bytes, write, writeOnto, Utf8.encode_append, encode_empty, shown, Utf8.encode_append,
    Utf8.encode_eq "-"]
  rfl

theorem bytes_text (value : String) :
    (text value).bytes = 0x22 :: (quoted value ++ [0x22]) := by
  rw [bytes, write, writeOnto, encode_writeString, encode_empty]
  rfl

theorem bytes_list (items : List Value) :
    (list items).bytes = 0x5B :: (parted true (items.map bytes) ++ [0x5D]) := by
  have opening : String.utf8EncodeChar '[' = [0x5B] := by
    decide
  have closing : String.utf8EncodeChar ']' = [0x5D] := by
    decide
  rw [bytes, write, writeOnto, encode_push _ closing,
    encode_writeItems fun item _ => encode_writeOnto item, encode_push _ opening, encode_empty]
  rfl

theorem bytes_object (members : List (String × Value)) :
    (object members).bytes = 0x7B :: (parted true (members.map memberBytes) ++ [0x7D]) := by
  have opening : String.utf8EncodeChar '\x7b' = [0x7B] := by
    decide
  have closing : String.utf8EncodeChar '\x7d' = [0x7D] := by
    decide
  rw [bytes, write, writeOnto, encode_push _ closing,
    encode_writeMembers fun member _ => encode_writeOnto member.2, encode_push _ opening,
    encode_empty]
  rfl

end Value

/-! ## What parts the values of a list or an object -/

/-- The first byte is not blank, and closes no list. -/
def Leads (part : Bytes) : Prop :=
  ∃ byte more, part = byte :: more ∧ Cursor.isBlankByte byte = false ∧ byte ≠ 0x5D

theorem isBlankByte_of_digit {byte : UInt8} (isDigit : (digitValue? byte).isSome) :
    Cursor.isBlankByte byte = false := by
  cases blank : Cursor.isBlankByte byte with
  | false =>
      rfl
  | true =>
      simp only [Cursor.isBlankByte, Bool.or_eq_true, beq_iff_eq] at blank
      rcases blank with ((rfl | rfl) | rfl) | rfl <;> cases isDigit

/-- What is written for a value begins with a byte that is not blank. -/
theorem leads_bytes {value : Value} (whole : value.IsWhole) : Leads value.bytes := by
  cases value with
  | null =>
      exact ⟨_, _, Value.bytes_null, by decide⟩
  | boolean value =>
      cases value with
      | true =>
          exact ⟨_, _, Value.bytes_true, by decide⟩
      | false =>
          exact ⟨_, _, Value.bytes_false, by decide⟩
  | number value =>
      have isWhole := whole value .here
      match value with
      | .integer (.ofNat value) =>
          obtain ⟨byte, more, written, isDigit⟩ := exists_encode_toString value
          refine ⟨byte, more, (Value.bytes_natural value).trans written,
            isBlankByte_of_digit isDigit, ?_⟩
          rintro rfl
          cases isDigit
      | .integer (.negSucc value) =>
          exact ⟨_, _, Value.bytes_negative value, by decide⟩
      | .double _ _ =>
          exact isWhole.elim
  | text value =>
      exact ⟨_, _, Value.bytes_text value, by decide⟩
  | list items =>
      exact ⟨_, _, Value.bytes_list items, by decide⟩
  | object members =>
      exact ⟨_, _, Value.bytes_object members, by decide⟩

/-- After a part of a list comes a comma or the end of the list. -/
theorem closes_parted {closing : UInt8} (parts : List Bytes) (rest : Bytes)
    (ends : closing = 0x5D ∨ closing = 0x7D) :
    Closes (parted false parts ++ closing :: rest) := by
  cases parts with
  | nil =>
      exact .inr ⟨closing, rest, rfl, .inr ends⟩
  | cons part parts =>
      exact .inr ⟨0x2C, _, rfl, .inl rfl⟩

section Cursors

variable {cursor : Cursor} {part rest : Bytes}

theorem hasNextItem_end (isFirst : Bool) (stands : cursor.rest = 0x5D :: rest) :
    hasNextItem isFirst cursor = .ok (false, cursor) := by
  rw [hasNextItem, Cursor.skipBlank_eq stands (by decide), Cursor.peek?_eq stands]
  rfl

/-- The cursor comes to the next item, past the comma before it. -/
theorem hasNextItem_written
    (isFirst : Bool)
    (leads : Leads part)
    (stands : cursor.rest = (if isFirst then part else 0x2C :: part) ++ rest) :
    ∃ next, hasNextItem isFirst cursor = .ok (true, next) ∧ next.rest = part ++ rest := by
  obtain ⟨byte, more, rfl, dark, opens⟩ := leads
  cases isFirst with
  | true =>
      refine ⟨cursor, ?_, stands⟩
      rw [hasNextItem, Cursor.skipBlank_eq stands dark, Cursor.peek?_eq stands]
      simp
  | false =>
      have after : cursor.advance.rest = byte :: (more ++ rest) :=
        Cursor.rest_advance stands
      refine ⟨cursor.advance, ?_, after⟩
      rw [hasNextItem, Cursor.skipBlank_eq stands (by decide), Cursor.peek?_eq stands]
      simp only [Bool.false_eq_true, if_false]
      rw [Cursor.skipBlank_eq after dark, Cursor.peek?_eq after]
      simp

theorem hasNextMember_end (isFirst : Bool) (stands : cursor.rest = 0x7D :: rest) :
    hasNextMember isFirst cursor = .ok (false, cursor) := by
  rw [hasNextMember, Cursor.skipBlank_eq stands (by decide), Cursor.peek?_eq stands]
  rfl

/-- The cursor comes to the quote of the next key, past the comma before it. -/
theorem hasNextMember_written
    (isFirst : Bool)
    (stands : cursor.rest = (if isFirst then 0x22 :: part else 0x2C :: 0x22 :: part) ++ rest) :
    ∃ next, hasNextMember isFirst cursor = .ok (true, next) ∧ next.rest = 0x22 :: (part ++ rest) := by
  cases isFirst with
  | true =>
      refine ⟨cursor, ?_, stands⟩
      rw [hasNextMember, Cursor.skipBlank_eq stands (by decide), Cursor.peek?_eq stands]
      simp
  | false =>
      have after : cursor.advance.rest = 0x22 :: (part ++ rest) :=
        Cursor.rest_advance stands
      refine ⟨cursor.advance, ?_, after⟩
      rw [hasNextMember, Cursor.skipBlank_eq stands (by decide), Cursor.peek?_eq stands]
      simp only [Bool.false_eq_true, if_false]
      rw [Cursor.skipBlank_eq after (by decide), Cursor.peek?_eq after]
      rfl

theorem readColon_written (stands : cursor.rest = 0x3A :: rest) :
    readColon cursor = .ok ((), cursor.advance) := by
  rw [readColon, Cursor.skipBlank_eq stands (by decide), Cursor.peek?_eq stands]
  rfl

/-- A key that is written is read, and the colon after it. -/
theorem readKey_written
    {isFirst : Bool}
    {member : String × Value}
    (stands : cursor.rest =
      (if isFirst then memberBytes member else 0x2C :: memberBytes member) ++ rest) :
    ∃ next colon later,
      hasNextMember isFirst cursor = .ok (true, next) ∧
      readString next.advance = .ok (member.1, colon) ∧
      readColon colon = .ok ((), later) ∧
      later.rest = member.2.bytes ++ rest := by
  obtain ⟨next, follows, begins⟩ := hasNextMember_written isFirst stands
  have afterQuote := Cursor.rest_advance begins
  rw [List.append_assoc] at afterQuote
  obtain ⟨colon, readsKey, atColon⟩ := readString_quoted afterQuote
  exact ⟨next, colon, colon.advance, follows, readsKey, readColon_written atColon,
    Cursor.rest_advance atColon⟩

end Cursors

/-- A key that comes after all others is put at the end. -/
theorem insertMember_of_last
    {key : String}
    {value : Value}
    {members : List (String × Value)}
    (last : ∀ member ∈ members, member.1 < key) :
    insertMember key value members = members ++ [(key, value)] := by
  induction members with
  | nil =>
      rfl
  | cons member members inductionHypothesis =>
      obtain ⟨other, held⟩ := member
      have before : other < key :=
        last (other, held) List.mem_cons_self
      have apart : key ≠ other := by
        rintro rfl
        exact String.lt_irrefl _ before
      have notBefore : ¬key < other :=
        String.lt_asymm before
      simp only [insertMember, apart, notBefore, if_false]
      rw [inductionHypothesis fun member inside => last member (List.mem_cons_of_mem _ inside)]
      rfl

/-! ## Reading what is written -/

/-- Enough steps to read what is written for a value read it. -/
def IsReadBack (depth : Nat) (value : Value) : Prop :=
  ∀ steps, value.bytes.length ≤ steps → Takes (readValueFrom depth steps) value.bytes value

/-- A value takes a step at least, as it has a byte at least. -/
theorem isReadBack_of_succ
    {depth : Nat}
    {value : Value}
    (leads : Leads value.bytes)
    (reads : ∀ steps, value.bytes.length ≤ steps + 1 →
      Takes (readValueFrom depth (steps + 1)) value.bytes value) :
    IsReadBack depth value := by
  obtain ⟨byte, more, shape, _, _⟩ := leads
  intro steps enough
  cases steps with
  | zero =>
      rw [shape] at enough
      exact absurd enough (Nat.not_succ_le_zero _)
  | succ steps =>
      exact reads steps enough

/-- The items that are written are read onto those before them. -/
theorem readItemsFrom_written
    {depth : Nat}
    {items : List Value}
    (each : ∀ item ∈ items, IsReadBack depth item)
    (lead : ∀ item ∈ items, Leads item.bytes)
    (read : List Value)
    {steps : Nat}
    {cursor : Cursor}
    {rest : Bytes}
    (enough : (parted read.isEmpty (items.map Value.bytes)).length < steps)
    (stands : cursor.rest = parted read.isEmpty (items.map Value.bytes) ++ 0x5D :: rest) :
    ∃ later, readItemsFrom depth read steps cursor = .ok (.list (read.reverse ++ items), later) ∧
      later.rest = rest := by
  induction items generalizing read steps cursor with
  | nil =>
      cases steps with
      | zero =>
          exact absurd enough (Nat.not_lt_zero _)
      | succ steps =>
          refine ⟨cursor.advance, ?_, Cursor.rest_advance stands⟩
          rw [readItemsFrom, hasNextItem_end _ stands]
          simp
  | cons item items inductionHypothesis =>
      cases steps with
      | zero =>
          exact absurd enough (Nat.not_lt_zero _)
      | succ steps =>
          rw [List.map_cons, parted, List.append_assoc] at stands
          rw [List.map_cons, parted, List.length_append] at enough
          obtain ⟨first, more, shape, _, _⟩ := lead item List.mem_cons_self
          have positive : 0 < item.bytes.length := by
            rw [shape]
            exact Nat.succ_pos _
          have longer : item.bytes.length ≤
              (if read.isEmpty then item.bytes else 0x2C :: item.bytes).length := by
            split
            · exact Nat.le_refl _
            · exact Nat.le_succ _
          obtain ⟨next, follows, begins⟩ :=
            hasNextItem_written read.isEmpty (lead item List.mem_cons_self) stands
          obtain ⟨between, reads, after⟩ := each item List.mem_cons_self steps (by omega)
            next _ (closes_parted _ rest (.inl rfl)) begins
          have short : (parted (item :: read).isEmpty (items.map Value.bytes)).length < steps := by
            rw [List.isEmpty_cons]
            omega
          obtain ⟨later, others, ends⟩ := inductionHypothesis
            (fun other member => each other (List.mem_cons_of_mem _ member))
            (fun other member => lead other (List.mem_cons_of_mem _ member))
            (item :: read) short after
          refine ⟨later, ?_, ends⟩
          rw [readItemsFrom, follows]
          simp only [reads, others]
          simp

/-- The members that are written are read onto those before them. -/
theorem readMembersFrom_written
    {depth : Nat}
    {members : List (String × Value)}
    (each : ∀ member ∈ members, IsReadBack depth member.2)
    (isFirst : Bool)
    {read : List (String × Value)}
    (ascending : Ascending (read ++ members))
    {steps : Nat}
    {cursor : Cursor}
    {rest : Bytes}
    (enough : (parted isFirst (members.map memberBytes)).length < steps)
    (stands : cursor.rest = parted isFirst (members.map memberBytes) ++ 0x7D :: rest) :
    ∃ later, readMembersFrom depth isFirst read steps cursor = .ok (.object (read ++ members), later) ∧
      later.rest = rest := by
  induction members generalizing isFirst read steps cursor with
  | nil =>
      cases steps with
      | zero =>
          exact absurd enough (Nat.not_lt_zero _)
      | succ steps =>
          refine ⟨cursor.advance, ?_, Cursor.rest_advance stands⟩
          rw [readMembersFrom, hasNextMember_end _ stands]
          simp
  | cons member members inductionHypothesis =>
      cases steps with
      | zero =>
          exact absurd enough (Nat.not_lt_zero _)
      | succ steps =>
          rw [List.map_cons, parted, List.append_assoc] at stands
          rw [List.map_cons, parted, List.length_append] at enough
          have longer : member.2.bytes.length + 2 ≤
              (if isFirst then memberBytes member else 0x2C :: memberBytes member).length := by
            have whole : member.2.bytes.length + 2 ≤ (memberBytes member).length := by
              simp only [memberBytes, List.length_cons, List.length_append]
              omega
            split
            · exact whole
            · exact Nat.le_succ_of_le whole
          obtain ⟨next, colon, atValue, follows, readsKey, readsColon, begins⟩ :=
            readKey_written stands
          obtain ⟨between, reads, after⟩ := each member List.mem_cons_self steps (by omega)
            atValue _ (closes_parted _ rest (.inr rfl)) begins
          have last : ∀ other ∈ read, other.1 < member.1 := by
            intro other inside
            exact (List.pairwise_append.mp ascending).2.2 other inside member List.mem_cons_self
          have goesOn : Ascending ((read ++ [member]) ++ members) := by
            simpa using ascending
          have short : (parted false (members.map memberBytes)).length < steps := by
            omega
          obtain ⟨later, others, ends⟩ := inductionHypothesis
            (fun other inside => each other (List.mem_cons_of_mem _ inside)) false goesOn short after
          refine ⟨later, ?_, ends⟩
          rw [readMembersFrom, follows]
          simp only [readsKey, readsColon, reads, insertMember_of_last last, others]
          simp

/-- A whole number is read back. -/
theorem isReadBack_number {depth : Nat} {value : Number} (whole : (Value.number value).IsWhole) :
    IsReadBack depth (.number value) := by
  refine isReadBack_of_succ (leads_bytes whole) fun steps _ cursor rest closes stands => ?_
  have isWhole := whole value .here
  match value with
  | .integer (.ofNat value) =>
      rw [show Int.ofNat value = (value : Int) from rfl, Value.bytes_natural] at stands
      have small : value < 2 ^ 64 :=
        Int.ofNat_lt.mp isWhole.2
      obtain ⟨later, reads, after⟩ := takes_natural small cursor rest closes stands
      obtain ⟨byte, more, written, isDigit⟩ := exists_encode_toString value
      rw [written] at stands
      have dark : Cursor.isBlankByte byte = false :=
        isBlankByte_of_digit isDigit
      have apart (other : UInt8) (isNone : digitValue? other = none) : byte ≠ other := by
        rintro rfl
        rw [isNone] at isDigit
        cases isDigit
      refine ⟨later, ?_, after⟩
      unfold readValueFrom
      simp only [Cursor.skipBlank_eq stands dark, Cursor.peek?_eq stands,
        apart 0x6E (by decide), apart 0x74 (by decide), apart 0x66 (by decide),
        apart 0x2D (by decide), isDigit, if_false, if_true, reads]
      rfl
  | .integer (.negSucc value) =>
      rw [Value.bytes_negative] at stands
      have small : value + 1 ≤ 2 ^ 63 := by
        have low := isWhole.1
        omega
      obtain ⟨later, reads, after⟩ :=
        takes_negative (Nat.succ_pos value) small _ rest closes (Cursor.rest_advance stands)
      refine ⟨later, ?_, after⟩
      unfold readValueFrom
      simp only [Cursor.skipBlank_eq stands (by decide), Cursor.peek?_eq stands, reads]
      rfl
  | .double _ _ =>
      exact isWhole.elim

/-- A value is read back from what is written for it. -/
theorem isReadBack_of_fits
    {depth : Nat}
    {value : Value}
    (fits : value.Fits depth)
    (whole : value.IsWhole) :
    IsReadBack depth value := by
  induction fits with
  | number value =>
      exact isReadBack_number whole
  | null =>
      refine isReadBack_of_succ (leads_bytes whole) fun steps _ cursor rest _ stands => ?_
      rw [Value.bytes_null] at stands
      obtain ⟨later, reads, after⟩ := readWord_written (Cursor.rest_advance stands)
      refine ⟨later, ?_, after⟩
      unfold readValueFrom
      simp only [Cursor.skipBlank_eq stands (by decide), Cursor.peek?_eq stands, reads]
      rfl
  | boolean value =>
      refine isReadBack_of_succ (leads_bytes whole) fun steps _ cursor rest _ stands => ?_
      cases value with
      | true =>
          rw [Value.bytes_true] at stands
          obtain ⟨later, reads, after⟩ := readWord_written (Cursor.rest_advance stands)
          refine ⟨later, ?_, after⟩
          unfold readValueFrom
          simp only [Cursor.skipBlank_eq stands (by decide), Cursor.peek?_eq stands, reads]
          rfl
      | false =>
          rw [Value.bytes_false] at stands
          obtain ⟨later, reads, after⟩ := readWord_written (Cursor.rest_advance stands)
          refine ⟨later, ?_, after⟩
          unfold readValueFrom
          simp only [Cursor.skipBlank_eq stands (by decide), Cursor.peek?_eq stands, reads]
          rfl
  | text value =>
      refine isReadBack_of_succ (leads_bytes whole) fun steps _ cursor rest _ stands => ?_
      rw [Value.bytes_text, List.cons_append, List.append_assoc] at stands
      obtain ⟨later, reads, after⟩ := readString_quoted (Cursor.rest_advance stands)
      refine ⟨later, ?_, after⟩
      unfold readValueFrom
      simp only [Cursor.skipBlank_eq stands (by decide), Cursor.peek?_eq stands, reads]
      rfl
  | @list depth items _ each =>
      refine isReadBack_of_succ (leads_bytes whole) fun steps enough cursor rest _ stands => ?_
      rw [Value.bytes_list, List.length_cons, List.length_append] at enough
      rw [Value.bytes_list, List.cons_append, List.append_assoc] at stands
      have wholeItems : ∀ item ∈ items, item.IsWhole := fun item member number holds =>
        whole number (.item member holds)
      have short : (parted ([] : List Value).isEmpty (items.map Value.bytes)).length < steps :=
        Nat.le_of_succ_le_succ enough
      obtain ⟨later, reads, after⟩ := readItemsFrom_written
        (fun item member => each item member (wholeItems item member))
        (fun item member => leads_bytes (wholeItems item member))
        [] short (Cursor.rest_advance stands)
      refine ⟨later, ?_, after⟩
      unfold readValueFrom
      simp only [Cursor.skipBlank_eq stands (by decide), Cursor.peek?_eq stands]
      exact reads
  | @object depth members ascending _ each =>
      refine isReadBack_of_succ (leads_bytes whole) fun steps enough cursor rest _ stands => ?_
      rw [Value.bytes_object, List.length_cons, List.length_append] at enough
      rw [Value.bytes_object, List.cons_append, List.append_assoc] at stands
      have wholeMembers : ∀ member ∈ members, member.2.IsWhole := fun member inside number holds =>
        whole number (.member inside holds)
      have fromNothing : Ascending ([] ++ members) :=
        ascending
      have short : (parted true (members.map memberBytes)).length < steps :=
        Nat.le_of_succ_le_succ enough
      obtain ⟨later, reads, after⟩ := readMembersFrom_written
        (fun member inside => each member inside (wholeMembers member inside))
        true fromNothing short (Cursor.rest_advance stands)
      refine ⟨later, ?_, after⟩
      unfold readValueFrom
      simp only [Cursor.skipBlank_eq stands (by decide), Cursor.peek?_eq stands]
      exact reads

/-- Enough steps for a cursor are enough for what is written where it stands. -/
theorem takes_readValue
    {depth : Nat}
    {value : Value}
    (fits : value.Fits depth)
    (whole : value.IsWhole) :
    Takes (readValue depth) value.bytes value := by
  intro cursor rest closes stands
  have enough : value.bytes.length ≤ stepsFor cursor := by
    rw [stepsFor, stands, List.length_append]
    omega
  exact isReadBack_of_fits fits whole _ enough cursor rest closes stands

/-! ## What is read from any input -/

/-- A member that is put in its place leaves an object in order. -/
theorem ascending_insertMember
    {members : List (String × Value)}
    (ascending : Ascending members)
    (key : String)
    (value : Value) :
    Ascending (insertMember key value members) ∧
      ∀ member ∈ insertMember key value members, member = (key, value) ∨ member ∈ members := by
  induction members with
  | nil =>
      exact ⟨List.pairwise_singleton _ _, fun member inside => .inl (List.mem_singleton.mp inside)⟩
  | cons head members inductionHypothesis =>
      obtain ⟨other, held⟩ := head
      obtain ⟨before, rest⟩ := List.pairwise_cons.mp ascending
      obtain ⟨inOrder, among⟩ := inductionHypothesis rest
      rw [insertMember]
      split
      · next same =>
          cases same
          exact ⟨List.pairwise_cons.mpr ⟨before, rest⟩, by grind⟩
      · next apart =>
          split
          · next first =>
              refine ⟨List.pairwise_cons.mpr ⟨fun member inside => ?_, ascending⟩, by grind⟩
              rcases List.mem_cons.mp inside with rfl | inside
              · exact first
              · exact String.lt_trans first (before member inside)
          · next notBefore =>
              have after : other < key :=
                Decidable.byContradiction fun notAfter =>
                  apart (String.le_antisymm (String.not_lt.mp notAfter) (String.not_lt.mp notBefore))
              refine ⟨List.pairwise_cons.mpr ⟨fun member inside => ?_, inOrder⟩, by grind⟩
              rcases among member inside with rfl | inside
              · exact after
              · exact before member inside

/-- What is known of the readers of values, of items and of members with some steps left. -/
structure ReadsFit (steps : Nat) : Prop where
  value : ∀ depth cursor value later,
    readValueFrom depth steps cursor = .ok (value, later) → value.Fits depth
  items : ∀ depth read cursor value later, (∀ item ∈ read, item.Fits depth) →
    readItemsFrom depth read steps cursor = .ok (value, later) → value.Fits (depth + 1)
  members : ∀ depth isFirst read cursor value later, Ascending read →
    (∀ member ∈ read, member.2.Fits depth) →
    readMembersFrom depth isFirst read steps cursor = .ok (value, later) → value.Fits (depth + 1)

theorem map_eq_ok {outcome : Outcome α} {change : α × Cursor → β × Cursor} {result : β × Cursor}
    (reads : outcome.map change = .ok result) :
    ∃ inner, result = change inner := by
  cases outcome with
  | error fault =>
      cases reads
  | ok inner =>
      exact ⟨inner, (Except.ok.inj reads).symm⟩

/-- A value is read with items and members that the reader was allowed to open. -/
theorem fits_of_readValueFrom_succ
    {steps : Nat}
    (fit : ReadsFit steps)
    {depth : Nat}
    {cursor later : Cursor}
    {value : Value}
    (reads : readValueFrom depth (steps + 1) cursor = .ok (value, later)) :
    value.Fits depth := by
  unfold readValueFrom at reads
  simp only at reads
  split at reads
  · cases reads
  split_ifs at reads with isNull isTrue isFalse isNegative isDigit isText isList isObject
  · obtain ⟨inner, same⟩ := map_eq_ok reads
    cases same
    exact .null
  · obtain ⟨inner, same⟩ := map_eq_ok reads
    cases same
    exact .boolean _
  · obtain ⟨inner, same⟩ := map_eq_ok reads
    cases same
    exact .boolean _
  · obtain ⟨inner, same⟩ := map_eq_ok reads
    cases same
    exact .number _
  · obtain ⟨inner, same⟩ := map_eq_ok reads
    cases same
    exact .number _
  · obtain ⟨inner, same⟩ := map_eq_ok reads
    cases same
    exact .text _
  · cases depth with
    | zero =>
        cases reads
    | succ depth =>
        exact fit.items depth [] _ _ _ (fun _ member => absurd member List.not_mem_nil) reads
  · cases depth with
    | zero =>
        cases reads
    | succ depth =>
        exact fit.members depth true [] _ _ _ .nil (fun _ member => absurd member List.not_mem_nil)
          reads
  · cases reads

/-- Items are read onto items that fit. -/
theorem fits_of_readItemsFrom_succ
    {steps : Nat}
    (fit : ReadsFit steps)
    {depth : Nat}
    {read : List Value}
    {cursor later : Cursor}
    {value : Value}
    (all : ∀ item ∈ read, item.Fits depth)
    (reads : readItemsFrom depth read (steps + 1) cursor = .ok (value, later)) :
    value.Fits (depth + 1) := by
  rw [readItemsFrom] at reads
  split at reads
  · cases reads
  · cases reads
    exact .list fun item member => all item (List.mem_reverse.mp member)
  · split at reads
    · cases reads
    · next item between readsItem =>
        refine fit.items depth (item :: read) _ _ _ (fun other member => ?_) reads
        rcases List.mem_cons.mp member with rfl | member
        · exact fit.value depth _ _ _ readsItem
        · exact all other member

/-- Members are read onto members that fit, each to the place of its key. -/
theorem fits_of_readMembersFrom_succ
    {steps : Nat}
    (fit : ReadsFit steps)
    {depth : Nat}
    {isFirst : Bool}
    {read : List (String × Value)}
    {cursor later : Cursor}
    {value : Value}
    (ascending : Ascending read)
    (all : ∀ member ∈ read, member.2.Fits depth)
    (reads : readMembersFrom depth isFirst read (steps + 1) cursor = .ok (value, later)) :
    value.Fits (depth + 1) := by
  rw [readMembersFrom] at reads
  split at reads
  · cases reads
  · cases reads
    exact .object ascending all
  · split at reads
    · cases reads
    · next key colon readsKey =>
        split at reads
        · cases reads
        · split at reads
          · cases reads
          · next part between readsPart =>
              obtain ⟨inOrder, among⟩ := ascending_insertMember ascending key part
              refine fit.members depth false _ _ _ _ inOrder (fun member inside => ?_) reads
              rcases among member inside with rfl | inside
              · exact fit.value depth _ _ _ readsPart
              · exact all member inside

theorem readsFit (steps : Nat) : ReadsFit steps := by
  induction steps with
  | zero =>
      exact ⟨by rintro _ _ _ _ ⟨⟩, by rintro _ _ _ _ _ _ ⟨⟩, by rintro _ _ _ _ _ _ _ _ ⟨⟩⟩
  | succ steps inductionHypothesis =>
      exact
        { value := fun _ _ _ _ reads => fits_of_readValueFrom_succ inductionHypothesis reads
          items := fun _ _ _ _ _ all reads =>
            fits_of_readItemsFrom_succ inductionHypothesis all reads
          members := fun _ _ _ _ _ _ ascending all reads =>
            fits_of_readMembersFrom_succ inductionHypothesis ascending all reads }

/-- What is read is in order, and no deeper than the reader goes. -/
theorem fits_of_readValue
    {depth : Nat}
    {cursor later : Cursor}
    {value : Value}
    (reads : readValue depth cursor = .ok (value, later)) :
    value.Fits depth :=
  (readsFit _).value depth cursor value later reads

end CompilePlayground.Json
