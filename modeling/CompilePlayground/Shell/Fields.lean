import CompilePlayground.Shell.Pattern

namespace CompilePlayground.Shell

/-!
# Fields

The expansion of a word is a row of glyphs. Characters that come from an unquoted expansion
part the word into fields where they are separators; all others stay together.
-/

/-- A piece of an expanded word. A `mark` stands for nothing and keeps its field even when that
is empty; a `gap` parts two fields. -/
inductive Glyph where
  | symbol (c : Char) (isQuoted : Bool)
  | result (c : Char)
  | mark
  | gap
  deriving Repr, DecidableEq

namespace Fields

/-- Quoted text, which keeps its field. -/
def quoted (text : Octets) : List Glyph :=
  .mark :: text.map fun c => .symbol c true

/-- Text that an expansion has given. -/
def expanded (isQuoted : Bool) (text : Octets) : List Glyph :=
  if isQuoted then quoted text else text.map Glyph.result

/-- Several texts that an expansion has given, each a field of its own. -/
def separate (isQuoted : Bool) : List Octets → List Glyph
  | [] => []
  | [text] => expanded isQuoted text
  | text :: rest => expanded isQuoted text ++ .gap :: separate isQuoted rest

/-- What has been put into fields: the fields in reverse, the one that has begun, and whether
the last one was ended by a blank. -/
structure Sorting where
  finished : List (List Symbol)
  current? : Option (List Symbol)
  isAfterBlank : Bool

/-- End the field that has begun. -/
def Sorting.close (sorting : Sorting) (isAfterBlank : Bool) : Sorting :=
  match sorting.current? with
  | some current => ⟨current.reverse :: sorting.finished, none, isAfterBlank⟩
  | none => { sorting with isAfterBlank := isAfterBlank || sorting.isAfterBlank }

/-- Put a character into the field that has begun, or begin one. -/
def Sorting.add (sorting : Sorting) (symbol : Symbol) : Sorting :=
  { sorting with current? := some (symbol :: sorting.current?.getD []), isAfterBlank := false }

/-- Put the next glyph where it belongs. -/
def Sorting.next (separators : Octets) (sorting : Sorting) : Glyph → Sorting
  | .symbol c isQuoted => sorting.add ⟨c, isQuoted⟩
  | .mark =>
    { sorting with current? := some (sorting.current?.getD []), isAfterBlank := false }
  | .gap => { sorting.close false with isAfterBlank := false }
  | .result c =>
    if !separators.contains c then sorting.add ⟨c, false⟩
    else if c = ' ' || c = '\t' || c = '\n' then sorting.close true
    else
      match sorting.current? with
      | some _ => { sorting.close false with isAfterBlank := false }
      | none =>
        if sorting.isAfterBlank then { sorting with isAfterBlank := false }
        else { sorting with finished := [] :: sorting.finished }

/-- The fields of an expanded word. -/
def split (separators : Octets) (glyphs : List Glyph) : List (List Symbol) :=
  ((glyphs.foldl (Sorting.next separators) ⟨[], none, false⟩).close false).finished.reverse

/-- An expanded word as one text. -/
def text (glyphs : List Glyph) : Octets :=
  glyphs.flatMap fun glyph =>
    match glyph with
    | .symbol c _ => [c]
    | .result c => [c]
    | .mark => []
    | .gap => [' ']

/-- An expanded word as a pattern. -/
def symbols (glyphs : List Glyph) : List Symbol :=
  glyphs.flatMap fun glyph =>
    match glyph with
    | .symbol c isQuoted => [⟨c, isQuoted⟩]
    | .result c => [⟨c, false⟩]
    | .mark => []
    | .gap => [⟨' ', true⟩]

/-- Texts with another between each two of them. -/
def join (separator : Octets) : List Octets → Octets
  | [] => []
  | [text] => text
  | text :: rest => text ++ separator ++ join separator rest

end Fields

end CompilePlayground.Shell
