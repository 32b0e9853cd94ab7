namespace CompilePlayground.Html

/-!
# Tokens of a page

A page is a sequence of declarations, tags, comments and characters. Names of tags and
of attributes are in lower case, and of two attributes of one name the first counts.
-/

/-- An attribute as a tag writes it. -/
structure Attribute where
  name : String
  value : String
  deriving Repr, DecidableEq

/-- A tag without its kind. -/
structure Tag where
  name : String
  attributes : List Attribute
  selfClosing : Bool
  deriving Repr, DecidableEq

/-- The value of the first attribute of a name. -/
def valueOf? (name : String) (attributes : List Attribute) : Option String :=
  (attributes.find? (·.name == name)).map (·.value)

/-- What a document type declaration says. -/
structure Doctype where
  name? : Option String
  publicId? : Option String
  systemId? : Option String
  malformed : Bool
  deriving Repr, DecidableEq

/-- One item of a page. Characters that one reference stands for come together.
A fault is input that stands for nothing. -/
inductive Token where
  | doctype (declaration : Doctype)
  | startTag (tag : Tag)
  | endTag (name : String)
  | comment
  | text (characters : List Char)
  | fault
  | endOfInput
  deriving Repr, DecidableEq

/-- White space between the parts of a tag and between elements. -/
def isSpace (character : Char) : Bool :=
  character == ' ' || character == '\n' || character == '\t' || character == '\x0C' ||
    character == '\r'

/-- The character in place of one that may not stand in a name or a value. -/
def replaceNul (character : Char) : Char :=
  if character == '\x00' then '\uFFFD' else character

end CompilePlayground.Html
