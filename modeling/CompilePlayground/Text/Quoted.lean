import CompilePlayground.Text.Hidden

namespace CompilePlayground.Text

/-!
# Quoted text in messages

A text that a message quotes stands between double quotes. Quotes, backslashes
and the common controls are escaped by a letter, other characters without a glyph
by their code in braces; all else stands as it is.
-/

/-- A character of a quoted text. -/
def quotedCharacter (character : Char) : List Char :=
  match character with
  | '\x00' => ['\\', '0']
  | '\t' => ['\\', 't']
  | '\n' => ['\\', 'n']
  | '\r' => ['\\', 'r']
  | '"' => ['\\', '"']
  | '\\' => ['\\', '\\']
  | other =>
      if isHidden other then
        ['\\', 'u', '\x7b'] ++ Nat.toDigits 16 other.toNat ++ ['\x7d']
      else
        [other]

/-- A text between quotes, with its special characters escaped. -/
def quote (text : String) : String :=
  text.foldl
      (fun written character =>
        (quotedCharacter character).foldl String.push written)
      "\"" ++
    "\""

end CompilePlayground.Text
