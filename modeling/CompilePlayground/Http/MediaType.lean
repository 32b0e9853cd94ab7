import CompilePlayground.Text.Utf8

namespace CompilePlayground.Http

/-!
# Media types

A media type is a type and a subtype with a slash between them; what follows the last plus of
a subtype is its suffix. Parameters may come after a semicolon: a name, an equals sign and a
value, which may be quoted. Case counts in none of the names.
-/

/-- A media type. Its parameters are not kept. -/
structure MediaType where
  type : List Char
  subtype : List Char
  suffix? : Option (List Char)
  deriving Repr, DecidableEq

namespace MediaType

/-- The signs that a name may hold besides letters and digits. -/
def signs : List Char :=
  ['!', '#', '$', '%', '&', '\'', '*', '+', '-', '.', '^', '_', Char.ofNat 96, '|', '~']

/-- Whether a character may stand in a name. -/
def isTokenCharacter (character : Char) : Bool :=
  character.isAlphanum || signs.contains character

/-- Whether a character may stand between quotes. -/
def isQuotedCharacter (character : Char) : Bool :=
  31 < character.toNat && character.toNat != 127

/-- The subtype before the last plus, and the suffix after it. A plus at the front makes no
suffix. -/
def splitSuffix (name : List Char) : List Char × Option (List Char) :=
  let after := (name.reverse.takeWhile (· ≠ '+')).reverse
  if after.length + 1 < name.length then
    (name.take (name.length - after.length - 1), some after)
  else
    (name, none)

/-- What follows a quoted value: blanks, then a semicolon or the end. -/
def afterQuoted? (text : List Char) : Option (List Char) :=
  match text.dropWhile (· = ' ') with
  | [] => some []
  | ';' :: rest => some rest
  | _ => none

/-- What follows a value. A quoted one holds at least one character. -/
def afterValue? (text : List Char) : Option (List Char) :=
  match text with
  | '"' :: first :: rest =>
    let value := rest.takeWhile fun c => c ≠ '"' && isQuotedCharacter c
    match rest.drop value.length with
    | '"' :: later => if isQuotedCharacter first then afterQuoted? later else none
    | _ => none
  | _ =>
    let value := text.takeWhile isTokenCharacter
    match text.drop value.length with
    | [] => some []
    | ';' :: later => if value.isEmpty then none else some later
    | _ => none

/-- Whether a text is a list of parameters. The bound counts parameters. -/
def areParametersWithin : Nat → List Char → Bool
  | 0, _ => false
  | bound + 1, text =>
    match text.dropWhile (· = ' ') with
    | [] => true
    | trimmed =>
      let name := trimmed.takeWhile isTokenCharacter
      match name, trimmed.drop name.length with
      | _ :: _, '=' :: rest =>
        match afterValue? rest with
        | some later => areParametersWithin bound later
        | none => false
      | _, _ => false

/-- Whether a text is a list of parameters. -/
def areParameters (text : List Char) : Bool :=
  areParametersWithin (text.length + 1) text

/-- The media type that a text writes. -/
def read? (text : String) : Option MediaType :=
  let characters := text.toList.map Char.toLower
  let type := characters.takeWhile isTokenCharacter
  match type, characters.drop type.length with
  | _ :: _, '/' :: rest =>
    let name := rest.takeWhile isTokenCharacter
    let (subtype, suffix?) := splitSuffix name
    match rest.drop name.length with
    | [] => some ⟨type, subtype, suffix?⟩
    | ';' :: parameters =>
      if !name.isEmpty && areParameters parameters then some ⟨type, subtype, suffix?⟩ else none
    | _ => none
  | _, _ => none

/-- Whether a media type is that of JSON, or of something written in JSON. -/
def isJson (mediaType : MediaType) : Bool :=
  mediaType.type == "application".toList
    && (mediaType.subtype == "json".toList || mediaType.suffix? == some "json".toList)

end MediaType

end CompilePlayground.Http
