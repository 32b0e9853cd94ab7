import CompilePlayground.Json.Reader

namespace CompilePlayground.Json

/-!
# Reading records

A record is read from an object, whose unknown members are passed over, or from a
list that holds the fields in their order. A field may occur once. What is missing
or occurs twice is reported at the place that reading the record reached.
-/

/-- Report that something else stands where a type is expected. Scalars are read to
their end; brackets are not entered. -/
def failType (expected : String) (cursor : Cursor) : Outcome α :=
  let report (found : Found) (later : Cursor) : Outcome α :=
    failAt later (.wrongType found expected)
  match cursor.peek? with
  | none => failPeek cursor .expectedValue
  | some byte =>
      if byte = 0x6E then
        andThen (readWord [0x75, 0x6C, 0x6C] cursor.advance) fun _ => report .null
      else if byte = 0x74 then
        andThen (readWord [0x72, 0x75, 0x65] cursor.advance) fun _ =>
          report (.boolean true)
      else if byte = 0x66 then
        andThen (readWord [0x61, 0x6C, 0x73, 0x65] cursor.advance) fun _ =>
          report (.boolean false)
      else if byte = 0x2D then
        andThen (readNumber true cursor.advance) fun value => report (.number value)
      else if (digitValue? byte).isSome then
        andThen (readNumber false cursor) fun value => report (.number value)
      else if byte = 0x22 then
        andThen (readString cursor.advance) fun text => report (.text text)
      else if byte = 0x5B then report .list cursor
      else if byte = 0x7B then report .object cursor
      else failPeek cursor .expectedValue

/-- Read a string, and nothing else. -/
def readText (cursor : Cursor) : Outcome String :=
  let cursor := cursor.skipBlank
  match cursor.peek? with
  | none => failPeek cursor .endInValue
  | some 0x22 => readString cursor.advance
  | some _ => failType "a string" cursor

/-- Read a string or null. -/
def readText? (cursor : Cursor) : Outcome (Option String) :=
  let cursor := cursor.skipBlank
  match cursor.peek? with
  | some 0x6E =>
      andThen (readWord [0x75, 0x6C, 0x6C] cursor.advance) fun _ later => .ok (none, later)
  | _ => andThen (readText cursor) fun text later => .ok (some text, later)

/-- Read a boolean, and nothing else. -/
def readBoolean (cursor : Cursor) : Outcome Bool :=
  let cursor := cursor.skipBlank
  match cursor.peek? with
  | none => failPeek cursor .endInValue
  | some 0x74 =>
      andThen (readWord [0x72, 0x75, 0x65] cursor.advance) fun _ later => .ok (true, later)
  | some 0x66 =>
      andThen (readWord [0x61, 0x6C, 0x73, 0x65] cursor.advance) fun _ later =>
        .ok (false, later)
  | some _ => failType "a boolean" cursor

/-- A field of a record whose parts so far are a `σ`. -/
structure Field (σ : Type) where
  name : String
  isSet : σ → Bool
  read : Cursor → Outcome (σ → σ)
  /-- An object without the field is refused. -/
  neededInObject : Bool
  /-- A list that ends before the field is refused. -/
  neededInList : Bool

/-- A kind of record: how messages name it, and its fields in their order. -/
structure RecordKind (σ : Type) where
  name : String
  fields : List (Field σ)

namespace RecordKind

/-- How a message says that a record of this kind is expected. -/
def expected (kind : RecordKind σ) : String :=
  "struct " ++ kind.name

/-- How a message says how many fields are expected. -/
def expectedLength (kind : RecordKind σ) : String :=
  kind.expected ++ " with " ++ toString kind.fields.length ++ " elements"

/-- The place that is reported once a record turns out to be amiss: after the closing
bracket, if that is what follows. -/
def placeAfter (closing : UInt8) (cursor : Cursor) : Cursor :=
  let cursor := cursor.skipBlank
  match cursor.peek? with
  | some byte => if byte = closing then cursor.advance else cursor
  | none => cursor

/-- The first field that is needed and not set. -/
def missing? (kind : RecordKind σ) (record : σ) : Option (Field σ) :=
  kind.fields.find? fun field => field.neededInObject && !field.isSet record

/-- Read the members of an object into a record. -/
def readMembers
    (kind : RecordKind σ)
    (isFirst : Bool)
    (record : σ) :
    Nat →
    Cursor →
    Outcome σ
  | 0, cursor => failPeek cursor .endInObject
  | steps + 1, cursor =>
      match hasNextMember isFirst cursor with
      | .error fault => .error fault
      | .ok (false, cursor) =>
          match kind.missing? record with
          | some field => failAt (placeAfter 0x7D cursor) (.missingField field.name)
          | none => .ok (record, cursor)
      | .ok (true, cursor) =>
          match readString cursor.advance with
          | .error fault => .error fault
          | .ok (key, cursor) =>
              match kind.fields.find? (·.name = key) with
              | none =>
                  match readColon cursor with
                  | .error fault => .error fault
                  | .ok (_, cursor) =>
                      match inPart (.key key) (skipValue cursor) with
                      | .error fault => .error fault
                      | .ok (_, cursor) => readMembers kind false record steps cursor
              | some field =>
                  if field.isSet record then
                    failAt (placeAfter 0x7D cursor) (.duplicateField field.name)
                  else
                    match readColon cursor with
                    | .error fault => .error fault
                    | .ok (_, cursor) =>
                        match inPart (.key key) (field.read cursor) with
                        | .error fault => .error fault
                        | .ok (set, cursor) =>
                            readMembers kind false (set record) steps cursor

/-- Read the items of a list into a record. `position` is the index of the next one. -/
def readItems
    (kind : RecordKind σ)
    (position : Nat)
    (record : σ) :
    List (Field σ) →
    Cursor →
    Outcome σ
  | [], cursor => .ok (record, cursor)
  | field :: fields, cursor =>
      match hasNextItem (position = 0) cursor with
      | .error fault => .error fault
      | .ok (false, cursor) =>
          if field.neededInList then
            failAt (placeAfter 0x5D cursor) (.wrongLength position kind.expectedLength)
          else
            readItems kind (position + 1) record fields cursor
      | .ok (true, cursor) =>
          match inPart (.index position) (field.read cursor) with
          | .error fault => .error fault
          | .ok (set, cursor) => readItems kind (position + 1) (set record) fields cursor

/-- The bracket that ends a list whose items are all read. -/
def readListEnd (cursor : Cursor) : Outcome Unit :=
  let cursor := cursor.skipBlank
  match cursor.peek? with
  | none => failPeek cursor .endInList
  | some 0x5D => .ok ((), cursor.advance)
  | some 0x2C =>
      let cursor := cursor.advance.skipBlank
      match cursor.peek? with
      | some 0x5D => failPeek cursor .trailingComma
      | _ => failPeek cursor .trailingCharacters
  | some _ => failPeek cursor .trailingCharacters

/-- Read a record, beginning with one in which nothing is set. -/
def read (kind : RecordKind σ) (blank : σ) (cursor : Cursor) : Outcome σ :=
  let cursor := cursor.skipBlank
  match cursor.peek? with
  | none => failPeek cursor .endInValue
  | some 0x5B =>
      andThen (kind.readItems 0 blank kind.fields cursor.advance) fun record cursor =>
        andThen (readListEnd cursor) fun _ cursor => .ok (record, cursor)
  | some 0x7B =>
      andThen (kind.readMembers true blank (cursor.rest.length + 1) cursor.advance)
        fun record cursor => .ok (record, cursor.advance)
  | some _ => failType kind.expected cursor

end RecordKind

/-- Read a whole text, which holds what `read` reads and nothing else. -/
def readWhole (read : Cursor → Outcome α) (input : Bytes) : Except Fault α :=
  match read (Cursor.start input) with
  | .error fault => .error fault
  | .ok (value, cursor) => (readEnd cursor).map fun _ => value

/-- Read the items of a list of records up to the closing bracket. -/
def readListItems
    (readItem : Cursor → Outcome α)
    (read : List α) :
    Nat →
    Cursor →
    Outcome (List α)
  | 0, cursor => failPeek cursor .endInList
  | steps + 1, cursor =>
      match hasNextItem read.isEmpty cursor with
      | .error fault => .error fault
      | .ok (false, cursor) => .ok (read.reverse, cursor.advance)
      | .ok (true, cursor) =>
          match readItem cursor with
          | .error fault => .error (fault.within (.index read.length))
          | .ok (item, cursor) => readListItems readItem (item :: read) steps cursor

/-- Read a list of records. -/
def readList (readItem : Cursor → Outcome α) (cursor : Cursor) : Outcome (List α) :=
  let cursor := cursor.skipBlank
  match cursor.peek? with
  | none => failPeek cursor .endInValue
  | some 0x5B => readListItems readItem [] (cursor.rest.length + 1) cursor.advance
  | some _ => failType "a sequence" cursor

end CompilePlayground.Json
