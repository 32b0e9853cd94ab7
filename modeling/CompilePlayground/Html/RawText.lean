import CompilePlayground.Html.Token

namespace CompilePlayground.Html

/-!
# Raw text

In some elements tags are text, up to the end tag of the element itself. A script may
hold a comment, and inside the comment a script of its own; its end tag ends only that
inner one.
-/

/-- Whether the input begins with a name, in letters of either case, that a space, a
slash or a closing bracket ends. -/
def beginsWithName (name : List Char) (input : List Char) : Bool :=
  match name, input with
  | [], character :: _ => isSpace character || character == '/' || character == '>'
  | letter :: name, character :: rest =>
      character.toLower == letter && beginsWithName name rest
  | _, [] => false

/-- The input from the name of the element's end tag on, if it has one. -/
def rawTextEnd? (name : List Char) : List Char → Option (List Char)
  | [] => none
  | '<' :: '/' :: rest =>
      if beginsWithName name rest then some rest else rawTextEnd? name rest
  | _ :: rest => rawTextEnd? name rest

/-- How deep in comments a script is, and how many dashes came just before. -/
inductive ScriptDepth where
  | outside
  | inComment (dashes : Nat)
  | inScriptInComment (dashes : Nat)
  deriving Repr, DecidableEq

/-- The name of a script, as tags write it. -/
def scriptName : List Char :=
  ['s', 'c', 'r', 'i', 'p', 't']

/-- The depth after a character that opens no tag. -/
def ScriptDepth.pass (depth : ScriptDepth) (character : Char) : ScriptDepth :=
  let dashesAfter (dashes : Nat) := if character == '-' then dashes + 1 else 0
  match depth with
  | .outside => .outside
  | .inComment dashes =>
      if character == '>' && 2 ≤ dashes then .outside else .inComment (dashesAfter dashes)
  | .inScriptInComment dashes =>
      if character == '>' && 2 ≤ dashes then .outside
      else .inScriptInComment (dashesAfter dashes)

/-- The input from the name of a script's end tag on, if it has one. -/
def scriptEnd? (depth : ScriptDepth) : List Char → Option (List Char)
  | [] => none
  | '<' :: rest =>
      match depth, rest with
      | .outside, '/' :: name =>
          if beginsWithName scriptName name then some name else scriptEnd? .outside rest
      | .outside, _ =>
          scriptEnd? (if ['!', '-', '-'].isPrefixOf rest then .inComment 0 else .outside) rest
      | .inComment _, '/' :: name =>
          if beginsWithName scriptName name then some name
          else scriptEnd? (.inComment 0) rest
      | .inComment _, _ =>
          scriptEnd? (if beginsWithName scriptName rest then .inScriptInComment 0
            else .inComment 0) rest
      | .inScriptInComment _, '/' :: name =>
          scriptEnd? (if beginsWithName scriptName name then .inComment 0
            else .inScriptInComment 0) rest
      | .inScriptInComment _, _ => scriptEnd? (.inScriptInComment 0) rest
  | character :: rest => scriptEnd? (depth.pass character) rest

end CompilePlayground.Html
