import CompilePlayground.Html.Token

namespace CompilePlayground.Html

/-!
# Document type declarations

How a declaration is read, and which declarations ask for the old layout rules. Under
those rules a table may stand inside a paragraph.
-/

namespace Doctype

/-- Whether the input begins with a word, in letters of either case. -/
def beginsWith (word : String) (input : List Char) : Bool :=
  (input.take word.length).map Char.toLower == word.toList

/-- The input after the next closing bracket. -/
def afterBracket : List Char → List Char
  | [] => []
  | '>' :: rest => rest
  | _ :: rest => afterBracket rest

/-- Go on to the closing bracket; what stands before it says nothing. -/
def skip (declaration : Doctype) (input : List Char) : Doctype × List Char :=
  (declaration, afterBracket input)

/-- The declaration marked as malformed. -/
def spoil (declaration : Doctype) : Doctype :=
  { declaration with malformed := true }

/-- An identifier in quotes: its text, whether the quote was closed, and the input
after it. A closing bracket ends it early. -/
def quoted (quote : Char) (text : List Char) : List Char → List Char × Bool × List Char
  | [] => (text.reverse, false, [])
  | character :: rest =>
      if character == quote then (text.reverse, true, rest)
      else if character == '>' then (text.reverse, false, character :: rest)
      else quoted quote (replaceNul character :: text) rest

/-- What may follow the last identifier. -/
def afterIdentifiers (declaration : Doctype) (input : List Char) : Doctype × List Char :=
  match input.dropWhile isSpace with
  | [] => (declaration.spoil, [])
  | rest => declaration.skip rest

/-- Read a system identifier that begins with a quote. -/
def systemIdentifier
    (declaration : Doctype)
    (quote : Char)
    (input : List Char) :
    Doctype × List Char :=
  let (text, closed, rest) := quoted quote [] input
  let declaration := { declaration with systemId? := some (String.ofList text) }
  if closed then declaration.afterIdentifiers rest else declaration.spoil.skip rest

/-- What may follow a public identifier. -/
def afterPublic (declaration : Doctype) (input : List Char) : Doctype × List Char :=
  match input.dropWhile isSpace with
  | '>' :: rest => (declaration, rest)
  | '"' :: rest => declaration.systemIdentifier '"' rest
  | '\'' :: rest => declaration.systemIdentifier '\'' rest
  | rest => declaration.spoil.skip rest

/-- Read a public identifier that begins with a quote. -/
def publicIdentifier
    (declaration : Doctype)
    (quote : Char)
    (input : List Char) :
    Doctype × List Char :=
  let (text, closed, rest) := quoted quote [] input
  let declaration := { declaration with publicId? := some (String.ofList text) }
  if closed then declaration.afterPublic rest else declaration.spoil.skip rest

/-- What may follow the name. -/
def afterName (declaration : Doctype) (input : List Char) : Doctype × List Char :=
  let input := input.dropWhile isSpace
  if beginsWith "public" input then
    match (input.drop 6).dropWhile isSpace with
    | '"' :: rest => declaration.publicIdentifier '"' rest
    | '\'' :: rest => declaration.publicIdentifier '\'' rest
    | rest => declaration.spoil.skip rest
  else if beginsWith "system" input then
    match (input.drop 6).dropWhile isSpace with
    | '"' :: rest => declaration.systemIdentifier '"' rest
    | '\'' :: rest => declaration.systemIdentifier '\'' rest
    | rest => declaration.spoil.skip rest
  else
    match input with
    | '>' :: rest => (declaration, rest)
    | rest => declaration.spoil.skip rest

/-- Whether a character ends the name. -/
def endsName (character : Char) : Bool :=
  isSpace character || character == '>'

/-- Read what follows the word that opens a declaration. -/
def read (input : List Char) : Doctype × List Char :=
  let input := input.dropWhile isSpace
  let name := input.takeWhile (!endsName ·)
  let rest := input.dropWhile (!endsName ·)
  if name.isEmpty then
    skip ⟨none, none, none, true⟩ rest
  else
    let name := String.ofList (name.map fun character => (replaceNul character).toLower)
    afterName ⟨some name, none, none, false⟩ rest

/-- Public identifiers that ask for the old rules. -/
def oldIdentifiers : List String :=
  ["-//w3o//dtd w3 html strict 3.0//en//", "-/w3c/dtd html 4.0 transitional/en", "html"]

/-- The system identifier that asks for the old rules. -/
def oldSystemIdentifier : String :=
  "http:" ++ "/" ++ "/www.ibm.com/data/dtd/v11/ibmxhtml1-transitional.dtd"

/-- Beginnings of public identifiers that ask for the old rules. -/
def oldBeginnings : List String :=
  ["+//silmaril//dtd html pro v0r11 19970101//",
   "-//advasoft ltd//dtd html 3.0 aswedit + extensions//",
   "-//as//dtd html 3.0 aswedit + extensions//",
   "-//ietf//dtd html 2.0 level 1//",
   "-//ietf//dtd html 2.0 level 2//",
   "-//ietf//dtd html 2.0 strict level 1//",
   "-//ietf//dtd html 2.0 strict level 2//",
   "-//ietf//dtd html 2.0 strict//",
   "-//ietf//dtd html 2.0//",
   "-//ietf//dtd html 2.1e//",
   "-//ietf//dtd html 3.0//",
   "-//ietf//dtd html 3.2 final//",
   "-//ietf//dtd html 3.2//",
   "-//ietf//dtd html 3//",
   "-//ietf//dtd html level 0//",
   "-//ietf//dtd html level 1//",
   "-//ietf//dtd html level 2//",
   "-//ietf//dtd html level 3//",
   "-//ietf//dtd html strict level 0//",
   "-//ietf//dtd html strict level 1//",
   "-//ietf//dtd html strict level 2//",
   "-//ietf//dtd html strict level 3//",
   "-//ietf//dtd html strict//",
   "-//ietf//dtd html//",
   "-//metrius//dtd metrius presentational//",
   "-//microsoft//dtd internet explorer 2.0 html strict//",
   "-//microsoft//dtd internet explorer 2.0 html//",
   "-//microsoft//dtd internet explorer 2.0 tables//",
   "-//microsoft//dtd internet explorer 3.0 html strict//",
   "-//microsoft//dtd internet explorer 3.0 html//",
   "-//microsoft//dtd internet explorer 3.0 tables//",
   "-//netscape comm. corp.//dtd html//",
   "-//netscape comm. corp.//dtd strict html//",
   "-//o'reilly and associates//dtd html 2.0//",
   "-//o'reilly and associates//dtd html extended 1.0//",
   "-//o'reilly and associates//dtd html extended relaxed 1.0//",
   "-//softquad software//dtd hotmetal pro 6.0::19990601::extensions to html 4.0//",
   "-//softquad//dtd hotmetal pro 4.0::19971010::extensions to html 4.0//",
   "-//spyglass//dtd html 2.0 extended//",
   "-//sq//dtd html 2.0 hotmetal + extensions//",
   "-//sun microsystems corp.//dtd hotjava html//",
   "-//sun microsystems corp.//dtd hotjava strict html//",
   "-//w3c//dtd html 3 1995-03-24//",
   "-//w3c//dtd html 3.2 draft//",
   "-//w3c//dtd html 3.2 final//",
   "-//w3c//dtd html 3.2//",
   "-//w3c//dtd html 3.2s draft//",
   "-//w3c//dtd html 4.0 frameset//",
   "-//w3c//dtd html 4.0 transitional//",
   "-//w3c//dtd html experimental 19960712//",
   "-//w3c//dtd html experimental 970421//",
   "-//w3c//dtd w3 html//",
   "-//w3o//dtd w3 html 3.0//",
   "-//webtechs//dtd mozilla html 2.0//",
   "-//webtechs//dtd mozilla html//"]

/-- Beginnings of public identifiers that ask for the old rules unless a system
identifier goes with them. -/
def oldAloneBeginnings : List String :=
  ["-//w3c//dtd html 4.01 frameset//", "-//w3c//dtd html 4.01 transitional//"]

/-- Whether a text begins with one of several others. -/
def beginsWithOne (beginnings : List String) (text : String) : Bool :=
  beginnings.any fun beginning => beginning.toList.isPrefixOf text.toList

/-- Whether a public identifier asks for the old rules. -/
def isOldPublic (systemGiven : Bool) (identifier : String) : Bool :=
  oldIdentifiers.contains identifier || beginsWithOne oldBeginnings identifier ||
    (!systemGiven && beginsWithOne oldAloneBeginnings identifier)

/-- Whether a declaration asks for the old rules. -/
def asksForOldRules (declaration : Doctype) : Bool :=
  declaration.malformed || declaration.name? != some "html" ||
    (declaration.publicId?.map String.toLower).any
      (isOldPublic declaration.systemId?.isSome) ||
    declaration.systemId?.map String.toLower == some oldSystemIdentifier

end Doctype

end CompilePlayground.Html
