/-
Text as the bytes that stand for it.

Arguments may hold any bytes and everything written is ASCII, so a text is a list of
bytes and no encoding is ever assumed.  The two character classes below are those of
the plain ASCII locale: a byte of 0x80 or more is in neither.
-/

namespace HidLink

/-- A text, byte by byte. -/
abbrev Text := List UInt8

/-- The bytes of a text that is written in ASCII. -/
def ascii (s : String) : Text := s.toList.map Char.toUInt8

namespace Text

/-- Blanks: tab, line feed, vertical tab, form feed, carriage return and space. -/
def isBlank (c : UInt8) : Bool := (9 ≤ c && c ≤ 13) || c == 32

/-- The ten decimal digits. -/
def isDigit (c : UInt8) : Bool := 48 ≤ c && c ≤ 57

end Text

end HidLink
