import CompilePlayground.Json.Writer
import CompilePlayground.Text.Quoted
import CompilePlayground.Text.Utf8

namespace CompilePlayground.Json

/-!
# Where a reader stands, and what stops it

A cursor is the input still to be read, with the line and the column of the bytes
before it; columns count bytes. A fault has a cause, the position at which it was
noticed, and the path of keys and indexes that leads to the value being read.
-/

/-- A place in the input: lines count from one, columns count the bytes read on the
line. -/
structure Position where
  line : Nat
  column : Nat
  deriving Repr, DecidableEq

/-- The input still to be read, and the place of its beginning. -/
structure Cursor where
  rest : Bytes
  position : Position
  deriving Repr, DecidableEq

/-- The place after one more byte. -/
def Position.after (position : Position) (byte : UInt8) : Position :=
  if byte = 0x0A then ⟨position.line + 1, 0⟩
  else ⟨position.line, position.column + 1⟩

namespace Cursor

/-- The beginning of an input. -/
def start (input : Bytes) : Cursor :=
  ⟨input, ⟨1, 0⟩⟩

/-- The next byte and the cursor after it. -/
def next? (cursor : Cursor) : Option (UInt8 × Cursor) :=
  match cursor.rest with
  | [] => none
  | byte :: rest => some (byte, ⟨rest, cursor.position.after byte⟩)

/-- The next byte. -/
def peek? (cursor : Cursor) : Option UInt8 :=
  cursor.rest.head?

/-- The cursor after the next byte. -/
def advance (cursor : Cursor) : Cursor :=
  match cursor.next? with
  | some (_, later) => later
  | none => cursor

/-- The place after the next byte, where a byte that is only looked at is
reported. -/
def peekPosition (cursor : Cursor) : Position :=
  cursor.advance.position

/-- White space between tokens. -/
def isBlankByte (byte : UInt8) : Bool :=
  byte == 0x20 || byte == 0x0A || byte == 0x09 || byte == 0x0D

/-- Skip the blank bytes at the front of an input. -/
def skipBlankFrom (position : Position) : Bytes → Cursor
  | [] => ⟨[], position⟩
  | byte :: rest =>
      if isBlankByte byte then skipBlankFrom (position.after byte) rest
      else ⟨byte :: rest, position⟩

/-- The cursor at the next byte that is not blank. -/
def skipBlank (cursor : Cursor) : Cursor :=
  skipBlankFrom cursor.position cursor.rest

/-- The end of the input. -/
def finish (cursor : Cursor) : Cursor :=
  ⟨[], cursor.rest.foldl Position.after cursor.position⟩

end Cursor

/-- What a reader finds in place of the type that it wants. -/
inductive Found where
  | null
  | boolean (value : Bool)
  | number (value : Number)
  | text (value : String)
  | list
  | object
  deriving Repr, DecidableEq

/-- The words for what is found. -/
def Found.describe : Found → String
  | .null => "null"
  | .boolean true => "boolean `true`"
  | .boolean false => "boolean `false`"
  | .number (.integer value) => "integer `" ++ toString value ++ "`"
  | .number (.double negative magnitude) =>
      "floating point `" ++ (Number.double negative magnitude).write ++ "`"
  | .text value => "string " ++ Text.quote value
  | .list => "sequence"
  | .object => "map"

/-- Why reading stops. -/
inductive Cause where
  | endInList
  | endInObject
  | endInString
  | endInValue
  | expectedColon
  | expectedListCommaOrEnd
  | expectedObjectCommaOrEnd
  | expectedWord
  | expectedValue
  | badEscape
  | badNumber
  | numberOutOfRange
  | badCodePoint
  | controlInString
  | keyNotString
  | loneSurrogate
  | trailingComma
  | trailingCharacters
  | unfinishedEscape
  | tooDeep
  | wrongType (found : Found) (expected : String)
  | wrongLength (length : Nat) (expected : String)
  | missingField (name : String)
  | duplicateField (name : String)
  deriving Repr, DecidableEq

/-- Whether the input ends too early, breaks the grammar, or is JSON of the wrong
shape. -/
inductive CauseKind where
  | early
  | grammar
  | shape
  deriving Repr, DecidableEq

/-- The kind of a cause. -/
def Cause.kind : Cause → CauseKind
  | .endInList | .endInObject | .endInString | .endInValue => .early
  | .wrongType .. | .wrongLength .. | .missingField _ | .duplicateField _ => .shape
  | _ => .grammar

/-- The words for a cause. -/
def Cause.message : Cause → String
  | .endInList => "EOF while parsing a list"
  | .endInObject => "EOF while parsing an object"
  | .endInString => "EOF while parsing a string"
  | .endInValue => "EOF while parsing a value"
  | .expectedColon => "expected `:`"
  | .expectedListCommaOrEnd => "expected `,` or `]`"
  | .expectedObjectCommaOrEnd => "expected `,` or `\x7d`"
  | .expectedWord => "expected ident"
  | .expectedValue => "expected value"
  | .badEscape => "invalid escape"
  | .badNumber => "invalid number"
  | .numberOutOfRange => "number out of range"
  | .badCodePoint => "invalid unicode code point"
  | .controlInString =>
      "control character (\\u0000-\\u001F) found while parsing a string"
  | .keyNotString => "key must be a string"
  | .loneSurrogate => "lone leading surrogate in hex escape"
  | .trailingComma => "trailing comma"
  | .trailingCharacters => "trailing characters"
  | .unfinishedEscape => "unexpected end of hex escape"
  | .tooDeep => "recursion limit exceeded"
  | .wrongType found expected =>
      "invalid type: " ++ found.describe ++ ", expected " ++ expected
  | .wrongLength length expected =>
      "invalid length " ++ toString length ++ ", expected " ++ expected
  | .missingField name => "missing field `" ++ name ++ "`"
  | .duplicateField name => "duplicate field `" ++ name ++ "`"

/-- A step from a value into one of its parts. -/
inductive Segment where
  | index (position : Nat)
  | key (name : String)
  deriving Repr, DecidableEq

/-- A path as it is shown, such as `arg[0].name`. -/
def showPath (path : List Segment) : String :=
  path.foldl
    (fun shown segment =>
      match segment with
      | .index position => shown ++ "[" ++ toString position ++ "]"
      | .key name => if shown = "" then name else shown ++ "." ++ name)
    ""

/-- What stopped a reader, where, and in which part of the value. -/
structure Fault where
  cause : Cause
  position : Position
  path : List Segment
  deriving Repr, DecidableEq

namespace Fault

/-- The words for a fault, with its place in the input. -/
def message (fault : Fault) : String :=
  fault.cause.message ++ " at line " ++ toString fault.position.line ++
    " column " ++ toString fault.position.column

/-- The words for a fault, with the path before them if there is one. -/
def messageWithPath (fault : Fault) : String :=
  match fault.path with
  | [] => fault.message
  | path => showPath path ++ ": " ++ fault.message

/-- The fault as it is seen from the value that holds the part. -/
def within (segment : Segment) (fault : Fault) : Fault :=
  { fault with path := segment :: fault.path }

end Fault

/-- What reading gives: a value and the cursor after it, or a fault. -/
abbrev Outcome (α : Type) := Except Fault (α × Cursor)

/-- A fault noticed after the bytes read so far. -/
def failAt (cursor : Cursor) (cause : Cause) : Outcome α :=
  .error ⟨cause, cursor.position, []⟩

/-- A fault noticed at the byte that is looked at. -/
def failPeek (cursor : Cursor) (cause : Cause) : Outcome α :=
  .error ⟨cause, cursor.peekPosition, []⟩

/-- Go on where a reader stopped. -/
def andThen (outcome : Outcome α) (following : α → Cursor → Outcome β) : Outcome β :=
  match outcome with
  | .ok (value, cursor) => following value cursor
  | .error fault => .error fault

/-- Let the faults of a part be seen from the value that holds it. -/
def inPart (segment : Segment) : Outcome α → Outcome α
  | .ok read => .ok read
  | .error fault => .error (fault.within segment)

end CompilePlayground.Json
