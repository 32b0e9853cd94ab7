import CompilePlayground.Html.Token
import CompilePlayground.Html.Reference.Decode

namespace CompilePlayground.Html

/-!
# The inside of a tag

A tag is read one character at a time, from the character after the bracket (or the
slash) that opens it to the bracket that closes it. References in a value are decoded
when the value is complete: none of them can reach across the end of a value.
-/

/-- Decode the references in a value, in at most `fuel` steps, after the characters
already read, which are held last one first. -/
def expandWith (fuel : Nat) (read : List Char) (input : List Char) : List Char :=
  match fuel, input with
  | 0, rest => read.reverse ++ rest
  | _, [] => read.reverse
  | fuel + 1, '&' :: rest =>
      let (characters, rest) := Reference.decode true rest
      expandWith fuel (characters.reverse ++ read) rest
  | fuel + 1, character :: rest => expandWith fuel (character :: read) rest

/-- The text that the written value of an attribute stands for. -/
def expandValue (written : List Char) : String :=
  String.ofList (expandWith written.length [] written)

/-- Where in a tag a character stands. -/
inductive TagPlace where
  | name
  | beforeAttribute
  | attributeName
  | afterAttributeName
  | beforeValue
  | quotedValue (quote : Char)
  | plainValue
  | afterQuotedValue
  | afterSlash
  deriving Repr, DecidableEq

/-- A tag as far as it is read. Names and the value are held last character first,
attributes last one first. -/
structure TagScan where
  place : TagPlace
  name : List Char
  attributes : List Attribute
  attributeName : List Char
  attributeValue : List Char
  deriving Repr, DecidableEq

namespace TagScan

/-- A tag of which nothing is read. -/
def start : TagScan :=
  ⟨.name, [], [], [], []⟩

/-- Take the attribute that is complete, unless it has no name or the name was there
before. -/
def closeAttribute (scan : TagScan) : TagScan :=
  let name := String.ofList scan.attributeName.reverse
  let attributes :=
    if scan.attributeName.isEmpty || scan.attributes.any (·.name == name) then
      scan.attributes
    else
      ⟨name, expandValue scan.attributeValue.reverse⟩ :: scan.attributes
  { scan with attributes, attributeName := [], attributeValue := [] }

/-- The tag that is read, when its closing bracket has come. -/
def finish (scan : TagScan) (selfClosing : Bool) : Tag :=
  let scan := scan.closeAttribute
  ⟨String.ofList scan.name.reverse, scan.attributes.reverse, selfClosing⟩

/-- Stand at another place. -/
def goto (scan : TagScan) (place : TagPlace) : TagScan :=
  { scan with place }

/-- Begin a name of an attribute. -/
def openAttribute (scan : TagScan) (character : Char) : TagScan :=
  { scan.closeAttribute with
    place := .attributeName
    attributeName := [(replaceNul character).toLower] }

/-- Add to the value of the attribute. -/
def addValue (scan : TagScan) (character : Char) : TagScan :=
  { scan with attributeValue := replaceNul character :: scan.attributeValue }

/-- Read a character before an attribute. -/
def beforeAttribute (scan : TagScan) (character : Char) : TagScan ⊕ Tag :=
  if isSpace character then .inl (scan.goto .beforeAttribute)
  else if character == '/' then .inl (scan.goto .afterSlash)
  else if character == '>' then .inr (scan.finish false)
  else .inl (scan.openAttribute character)

/-- Read a character that may belong to a value without quotes. -/
def plainValue (scan : TagScan) (character : Char) : TagScan ⊕ Tag :=
  if isSpace character then .inl (scan.closeAttribute.goto .beforeAttribute)
  else if character == '>' then .inr (scan.finish false)
  else .inl ((scan.addValue character).goto .plainValue)

/-- Read one character: the tag so far, or the tag that it completes. -/
def step (scan : TagScan) (character : Char) : TagScan ⊕ Tag :=
  match scan.place with
  | .name =>
      if isSpace character || character == '/' || character == '>' then
        scan.beforeAttribute character
      else
        .inl { scan with name := (replaceNul character).toLower :: scan.name }
  | .beforeAttribute => scan.beforeAttribute character
  | .attributeName =>
      if isSpace character then .inl (scan.goto .afterAttributeName)
      else if character == '/' then .inl (scan.closeAttribute.goto .afterSlash)
      else if character == '=' then .inl (scan.goto .beforeValue)
      else if character == '>' then .inr (scan.finish false)
      else
        .inl { scan with
          attributeName := (replaceNul character).toLower :: scan.attributeName }
  | .afterAttributeName =>
      if isSpace character then .inl scan
      else if character == '/' then .inl (scan.closeAttribute.goto .afterSlash)
      else if character == '=' then .inl (scan.goto .beforeValue)
      else if character == '>' then .inr (scan.finish false)
      else .inl (scan.openAttribute character)
  | .beforeValue =>
      if isSpace character then .inl scan
      else if character == '"' || character == '\'' then
        .inl (scan.goto (.quotedValue character))
      else if character == '>' then .inr (scan.finish false)
      else scan.plainValue character
  | .quotedValue quote =>
      if character == quote then .inl (scan.closeAttribute.goto .afterQuotedValue)
      else .inl (scan.addValue character)
  | .plainValue => scan.plainValue character
  | .afterQuotedValue => scan.beforeAttribute character
  | .afterSlash =>
      if character == '>' then .inr (scan.finish true)
      else scan.beforeAttribute character

/-- Read a tag to its closing bracket: the tag and the input after it, if it has one. -/
def run? (scan : TagScan) : List Char → Option (Tag × List Char)
  | [] => none
  | character :: rest =>
      match scan.step character with
      | .inl scan => scan.run? rest
      | .inr tag => some (tag, rest)

end TagScan

end CompilePlayground.Html
