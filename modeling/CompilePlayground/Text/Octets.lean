import CompilePlayground.Text.Utf8

namespace CompilePlayground

/-- Bytes with one character for each, the one that has the number of the byte. -/
abbrev Octets := List Char

namespace Text.Octets

/-!
# Bytes as characters

A shell takes its input byte by byte. Here every byte is the character with its number, which
lets ASCII be written as it is and loses nothing.
-/

/-- One character for each byte. -/
def ofBytes (bytes : Bytes) : Octets :=
  bytes.map fun byte => Char.ofNat byte.toNat

/-- One byte for each character. -/
def toBytes (octets : Octets) : Bytes :=
  octets.map fun octet => octet.toNat.toUInt8

/-- The bytes of a text of ASCII. -/
def ascii (text : String) : Bytes :=
  toBytes text.toList

end Text.Octets

end CompilePlayground
