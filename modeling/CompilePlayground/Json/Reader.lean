import CompilePlayground.Json.Scalar

namespace CompilePlayground.Json

/-!
# Reading values

`readValue` reads a value of any shape, `skipValue` passes over one. Lists and
objects may be nested to a fixed depth when they are read, and to any depth when
they are passed over. What both read is one value and nothing after it; the text
around it is the business of who asks.
-/

/-- How deep lists and objects may be nested, the outermost one included. -/
def depthLimit : Nat := 127

/-- Whether another item of a list follows. The cursor then stands at it, and
otherwise at the closing bracket. -/
def hasNextItem (isFirst : Bool) (cursor : Cursor) : Outcome Bool :=
  let cursor := cursor.skipBlank
  match cursor.peek? with
  | none => failPeek cursor .endInList
  | some 0x5D => .ok (false, cursor)
  | some byte =>
      if isFirst then
        .ok (true, cursor)
      else if byte = 0x2C then
        let cursor := cursor.advance.skipBlank
        match cursor.peek? with
        | some 0x5D => failPeek cursor .trailingComma
        | some _ => .ok (true, cursor)
        | none => failPeek cursor .endInValue
      else
        failPeek cursor .expectedListCommaOrEnd

/-- Whether another member of an object follows. The cursor then stands at the quote of
its key, and otherwise at the closing brace. -/
def hasNextMember (isFirst : Bool) (cursor : Cursor) : Outcome Bool :=
  let cursor := cursor.skipBlank
  match cursor.peek? with
  | none => failPeek cursor .endInObject
  | some 0x7D => .ok (false, cursor)
  | some byte =>
      if isFirst then
        if byte = 0x22 then .ok (true, cursor) else failPeek cursor .keyNotString
      else if byte = 0x2C then
        let cursor := cursor.advance.skipBlank
        match cursor.peek? with
        | some 0x22 => .ok (true, cursor)
        | some 0x7D => failPeek cursor .trailingComma
        | some _ => failPeek cursor .keyNotString
        | none => failPeek cursor .endInValue
      else
        failPeek cursor .expectedObjectCommaOrEnd

/-- Read the colon between a key and its value. -/
def readColon (cursor : Cursor) : Outcome Unit :=
  let cursor := cursor.skipBlank
  match cursor.peek? with
  | some 0x3A => .ok ((), cursor.advance)
  | some _ => failPeek cursor .expectedColon
  | none => failPeek cursor .endInObject

mutual

/-- Read a value. `depth` more lists and objects may be opened inside each other;
every step takes a byte of the input or leads to one that does. -/
def readValueFrom (depth : Nat) : Nat → Cursor → Outcome Value
  | 0, cursor => failPeek cursor .endInValue
  | steps + 1, cursor =>
      let cursor := cursor.skipBlank
      match cursor.peek? with
      | none => failPeek cursor .endInValue
      | some byte =>
          if byte = 0x6E then
            (readWord [0x75, 0x6C, 0x6C] cursor.advance).map fun (_, later) => (.null, later)
          else if byte = 0x74 then
            (readWord [0x72, 0x75, 0x65] cursor.advance).map
              fun (_, later) => (.boolean true, later)
          else if byte = 0x66 then
            (readWord [0x61, 0x6C, 0x73, 0x65] cursor.advance).map
              fun (_, later) => (.boolean false, later)
          else if byte = 0x2D then
            (readNumber true cursor.advance).map fun (value, later) => (.number value, later)
          else if (digitValue? byte).isSome then
            (readNumber false cursor).map fun (value, later) => (.number value, later)
          else if byte = 0x22 then
            (readString cursor.advance).map fun (text, later) => (.text text, later)
          else if byte = 0x5B then
            match depth with
            | 0 => failPeek cursor .tooDeep
            | depth + 1 => readItemsFrom depth [] steps cursor.advance
          else if byte = 0x7B then
            match depth with
            | 0 => failPeek cursor .tooDeep
            | depth + 1 => readMembersFrom depth true [] steps cursor.advance
          else
            failPeek cursor .expectedValue

/-- Read the items of a list up to its closing bracket. `read` holds those so far, the
last one first. -/
def readItemsFrom (depth : Nat) (read : List Value) : Nat → Cursor → Outcome Value
  | 0, cursor => failPeek cursor .endInList
  | steps + 1, cursor =>
      match hasNextItem read.isEmpty cursor with
      | .error fault => .error fault
      | .ok (false, cursor) => .ok (.list read.reverse, cursor.advance)
      | .ok (true, cursor) =>
          match readValueFrom depth steps cursor with
          | .error fault => .error (fault.within (.index read.length))
          | .ok (item, cursor) => readItemsFrom depth (item :: read) steps cursor

/-- Read the members of an object up to its closing brace. -/
def readMembersFrom
    (depth : Nat)
    (isFirst : Bool)
    (read : List (String × Value)) :
    Nat →
    Cursor →
    Outcome Value
  | 0, cursor => failPeek cursor .endInObject
  | steps + 1, cursor =>
      match hasNextMember isFirst cursor with
      | .error fault => .error fault
      | .ok (false, cursor) => .ok (.object read, cursor.advance)
      | .ok (true, cursor) =>
          match readString cursor.advance with
          | .error fault => .error fault
          | .ok (key, cursor) =>
              match readColon cursor with
              | .error fault => .error fault
              | .ok (_, cursor) =>
                  match readValueFrom depth steps cursor with
                  | .error fault => .error (fault.within (.key key))
                  | .ok (value, cursor) =>
                      readMembersFrom depth false (insertMember key value read) steps cursor

end

/-- Enough steps for any value at a cursor: a value that opens a list takes a byte and
leads to two further steps at most. -/
def stepsFor (cursor : Cursor) : Nat :=
  2 * cursor.rest.length + 2

/-- Read a value, with `depth` levels of nesting left. -/
def readValue (depth : Nat) (cursor : Cursor) : Outcome Value :=
  readValueFrom depth (stepsFor cursor) cursor

/-- What brackets are open around a value that is passed over. -/
inductive Enclosure where
  | list
  | object
  deriving Repr, DecidableEq

/-- Pass over the escape after a backslash in a string. -/
def skipEscape (cursor : Cursor) : Outcome Unit :=
  match cursor.next? with
  | none => failAt cursor .endInString
  | some (letter, later) =>
      if letter = 0x75 then
        (readHexEscape later).map fun (_, later) => ((), later)
      else if (escapedByte? letter).isSome then
        .ok ((), later)
      else
        failAt later .badEscape

/-- Pass over a string after its opening quote. -/
def skipString : Nat → Cursor → Outcome Unit
  | 0, cursor => failAt cursor .endInString
  | steps + 1, cursor =>
      match cursor.next? with
      | none => failAt cursor .endInString
      | some (byte, later) =>
          if byte = 0x22 then
            .ok ((), later)
          else if byte = 0x5C then
            match skipEscape later with
            | .ok (_, later) => skipString steps later
            | .error fault => .error fault
          else if byte < 0x20 then
            failAt cursor .controlInString
          else
            skipString steps later

/-- Pass over an exponent, from its letter on. -/
def skipExponent (cursor : Cursor) : Outcome Unit :=
  let afterLetter := cursor.advance
  let afterSign :=
    match afterLetter.peek? with
    | some 0x2B | some 0x2D => afterLetter.advance
    | _ => afterLetter
  match peekDigit? afterSign with
  | some _ => .ok ((), (skipDigits 0 afterSign.rest.length afterSign).2)
  | none => failAt afterSign.advance .badNumber

/-- Pass over what may follow the digits of a number. -/
def skipAfterDigits (cursor : Cursor) : Outcome Unit :=
  match cursor.peek? with
  | some 0x65 | some 0x45 => skipExponent cursor
  | _ => .ok ((), cursor)

/-- Pass over a number from its first digit on. -/
def skipNumber (cursor : Cursor) : Outcome Unit :=
  let afterInteger (later : Cursor) : Outcome Unit :=
    match later.peek? with
    | some 0x2E =>
        let afterPoint := later.advance
        match skipDigits 0 afterPoint.rest.length afterPoint with
        | (0, later) => failPeek later .badNumber
        | (_, later) => skipAfterDigits later
    | _ => skipAfterDigits later
  match peekDigit? cursor with
  | none => failAt cursor.advance .badNumber
  | some 0 =>
      match peekDigit? cursor.advance with
      | some _ => failPeek cursor.advance .badNumber
      | none => afterInteger cursor.advance
  | some _ => afterInteger (skipDigits 0 cursor.rest.length cursor).2

/-- Pass over a scalar value, or an opening bracket that is then reported. -/
def skipScalar (cursor : Cursor) : Outcome (Option Enclosure) :=
  let scalar (outcome : Outcome Unit) : Outcome (Option Enclosure) :=
    outcome.map fun (_, later) => (none, later)
  match cursor.peek? with
  | none => failPeek cursor .endInValue
  | some byte =>
      if byte = 0x6E then scalar (readWord [0x75, 0x6C, 0x6C] cursor.advance)
      else if byte = 0x74 then scalar (readWord [0x72, 0x75, 0x65] cursor.advance)
      else if byte = 0x66 then scalar (readWord [0x61, 0x6C, 0x73, 0x65] cursor.advance)
      else if byte = 0x2D then scalar (skipNumber cursor.advance)
      else if (digitValue? byte).isSome then scalar (skipNumber cursor)
      else if byte = 0x22 then
        scalar (skipString (cursor.rest.length + 1) cursor.advance)
      else if byte = 0x5B then .ok (some .list, cursor.advance)
      else if byte = 0x7B then .ok (some .object, cursor.advance)
      else failPeek cursor .expectedValue

/-- Pass over the closing brackets and the comma after a value. The brackets that
are open are given from the inside out; those that stay open come back, none when
the outermost one is closed. `afterValue` tells whether a value was just passed
over, so that a comma may follow. -/
def skipClosing
    (afterValue : Bool)
    (innermost : Enclosure)
    (outer : List Enclosure) :
    Nat →
    Cursor →
    Outcome (List Enclosure)
  | 0, cursor => failPeek cursor .endInValue
  | steps + 1, cursor =>
      let cursor := cursor.skipBlank
      match cursor.peek? with
      | none =>
          failPeek cursor
            (match innermost with
            | .list => .endInList
            | .object => .endInObject)
      | some byte =>
          if byte = 0x2C ∧ afterValue = true then
            .ok (innermost :: outer, cursor.advance)
          else if (byte = 0x5D ∧ innermost = .list) ∨ (byte = 0x7D ∧ innermost = .object) then
            match outer with
            | [] => .ok ([], cursor.advance)
            | next :: outer => skipClosing true next outer steps cursor.advance
          else if afterValue then
            failPeek cursor
              (match innermost with
              | .list => .expectedListCommaOrEnd
              | .object => .expectedObjectCommaOrEnd)
          else
            .ok (innermost :: outer, cursor)

/-- Pass over the key and the colon before a value in an object. -/
def skipKey (cursor : Cursor) : Outcome Unit :=
  let cursor := cursor.skipBlank
  match cursor.peek? with
  | none => failPeek cursor .endInObject
  | some 0x22 =>
      match skipString (cursor.rest.length + 1) cursor.advance with
      | .error fault => .error fault
      | .ok (_, cursor) => readColon cursor
  | some _ => failPeek cursor .keyNotString

/-- Pass over values and brackets until none is open any more. -/
def skipValueFrom (enclosing : List Enclosure) : Nat → Cursor → Outcome Unit
  | 0, cursor => failPeek cursor .endInValue
  | steps + 1, cursor =>
      match skipScalar cursor.skipBlank with
      | .error fault => .error fault
      | .ok (opened, cursor) =>
          let (afterValue, stays) :=
            match opened with
            | some enclosure => (false, enclosure :: enclosing)
            | none => (true, enclosing)
          match stays with
          | [] => .ok ((), cursor)
          | innermost :: outer =>
              match
                skipClosing afterValue innermost outer (cursor.rest.length + 1) cursor
              with
              | .error fault => .error fault
              | .ok ([], cursor) => .ok ((), cursor)
              | .ok (.list :: outer, cursor) => skipValueFrom (.list :: outer) steps cursor
              | .ok (.object :: outer, cursor) =>
                  match skipKey cursor with
                  | .error fault => .error fault
                  | .ok (_, cursor) => skipValueFrom (.object :: outer) steps cursor

/-- Pass over one value of any shape and depth. -/
def skipValue (cursor : Cursor) : Outcome Unit :=
  skipValueFrom [] (cursor.rest.length + 1) cursor

/-- Nothing but blank bytes may follow. -/
def readEnd (cursor : Cursor) : Except Fault Unit :=
  let cursor := cursor.skipBlank
  match cursor.peek? with
  | none => .ok ()
  | some _ => .error ⟨.trailingCharacters, cursor.peekPosition, []⟩

end CompilePlayground.Json
