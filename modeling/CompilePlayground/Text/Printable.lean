namespace CompilePlayground.Text

/-!
# Text without control sequences

Messages for a terminal hold no control sequences: controls other than white space are
left out, and an escape takes with it the sequence that it begins.
-/

/-- What a character is part of. -/
inductive Sequence where
  | none
  | escape
  | intermediate
  | control
  | string
  deriving Repr, DecidableEq

/-- Whether a control character moves the place of writing. -/
def isLayout (character : Char) : Bool :=
  ['\t', '\n', '\x0C', '\r'].contains character

/-- What follows an escape. -/
def Sequence.afterEscape (character : Char) : Sequence :=
  if character == '[' then .control
  else if [']', 'P', 'X', '^', '_'].contains character then .string
  else if ' ' ≤ character ∧ character ≤ '/' then .intermediate
  else .none

/-- Whether a character is printed, and what the next one is part of. -/
def Sequence.step (sequence : Sequence) (character : Char) : Bool × Sequence :=
  if '\x80' ≤ character then (true, .none)
  else if character == '\x1B' then (false, .escape)
  else
    match sequence with
    | .none => (isLayout character || (' ' ≤ character && character != '\x7F'), .none)
    | .string =>
        (false, if ['\x07', '\x18', '\x1A'].contains character then .none else .string)
    | .escape =>
        if isLayout character then (true, .none)
        else (false, if character < ' ' then .escape else .afterEscape character)
    | .intermediate =>
        if isLayout character then (true, .none)
        else (false, if '0' ≤ character then .none else .intermediate)
    | .control =>
        if isLayout character then (true, .none)
        else (false, if '@' ≤ character then .none else .control)

/-- The characters that are printed. -/
def printableFrom (sequence : Sequence) : List Char → List Char
  | [] => []
  | character :: rest =>
      let (printed, next) := sequence.step character
      if printed then character :: printableFrom next rest else printableFrom next rest

/-- A text without its control sequences. -/
def printable (text : String) : String :=
  String.ofList (printableFrom .none text.toList)

end CompilePlayground.Text
