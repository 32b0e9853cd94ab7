import CompilePlayground.Text.Octets

namespace CompilePlayground.Shell

/-!
# Words and commands

A word is put together from parts: text as it stands, quoted text, and expansions. A command
is made of words, or of other commands.
-/

/-- What is done with the value of a parameter. A flag says whether an empty value counts as
none, or whether the longest match is taken. -/
inductive Modifier where
  | value
  | size
  | otherwise (emptyToo : Bool)
  | assign (emptyToo : Bool)
  | complain (emptyToo : Bool)
  | instead (emptyToo : Bool)
  | withoutStart (longest : Bool)
  | withoutEnd (longest : Bool)
  deriving Repr, DecidableEq

/-- What a redirection does with its descriptor. -/
inductive Direction where
  | input
  | output
  | append
  | both
  | copy
  | text
  deriving Repr, DecidableEq

mutual

/-- A part of a word. -/
inductive Part where
  | plain (text : Octets)
  | quoted (text : Octets)
  | parameter (name : Octets) (modifier : Modifier) (argument : List Part) (isQuoted : Bool)
  | substitution (body : List Command) (isQuoted : Bool)
  | arithmetic (expression : List Part) (isQuoted : Bool)
  | faulty (line : Nat)

/-- A command. Those that can complain say in which line they stand. -/
inductive Command where
  | simple
      (line : Nat)
      (assignments : List (Octets × List Part))
      (words : List (List Part))
      (redirections : List Redirection)
  | redirected (line : Nat) (body : Command) (redirections : List Redirection)
  | pipeline (commands : List Command)
  | negation (command : Command)
  | both (first second : Command)
  | either (first second : Command)
  | sequence (commands : List Command)
  | background (command : Command)
  | subshell (body : Command)
  | choice (condition consequence : Command) (alternative? : Option Command)
  | repetition (whileTrue : Bool) (condition body : Command)
  | forEach (name : Octets) (words? : Option (List (List Part))) (body : Command)
  | selection (word : List Part) (branches : List (List (List Part) × Command))
  | definition (name : Octets) (body : Command)

/-- A redirection of a descriptor to what a word names. -/
inductive Redirection where
  | mk (direction : Direction) (descriptor : Nat) (target : List Part)

end

/-- A word of a command line. -/
abbrev Word := List Part

end CompilePlayground.Shell
