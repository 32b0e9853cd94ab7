namespace CompilePlayground.Text

/-!
# White space and lines

`isBlank` is the Unicode property White_Space. A text is trimmed of blank
characters at both ends; its lines are what line feeds end, without the carriage
return that may stand before one.
-/

/-- A character with the Unicode property White_Space. -/
def isBlank (character : Char) : Bool :=
  let code := character.val
  (0x09 ≤ code && code ≤ 0x0D) || code == 0x20 || code == 0x85 || code == 0xA0 ||
    code == 0x1680 || (0x2000 ≤ code && code ≤ 0x200A) || code == 0x2028 ||
    code == 0x2029 || code == 0x202F || code == 0x205F || code == 0x3000

/-- The text without the blank characters at its ends. -/
def trim (characters : List Char) : List Char :=
  (((characters.dropWhile isBlank).reverse).dropWhile isBlank).reverse

/-- The first line of a text, without what ends it; the empty text has none. -/
def firstLine? (characters : List Char) : Option (List Char) :=
  match characters with
  | [] => none
  | _ =>
      let line := characters.takeWhile (· ≠ '\n')
      if line.length < characters.length then
        match line.reverse with
        | '\r' :: before => some before.reverse
        | _ => some line
      else
        some line

end CompilePlayground.Text
