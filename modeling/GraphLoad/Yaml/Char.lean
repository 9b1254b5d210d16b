/-! The classes of characters that the grammar of YAML rests on. -/

namespace GraphLoad.Yaml

/-- Whether a character ends a line. -/
def isBreak (c : Char) : Bool :=
  c == '\n' || c == '\r' || c == '\u0085' || c == '\u2028' || c == '\u2029'

/-- Whether a character is white space within a line. -/
def isLineBlank (c : Char) : Bool :=
  c == ' ' || c == '\t'

/-- Whether a text goes on with white space or a line break, or ends. -/
def startsBlank : List Char → Bool
  | [] => true
  | c :: _ => isLineBlank c || isBreak c

/-- Whether a character may stand in the name of a directive, an anchor or a tag handle. -/
def isWordChar (c : Char) : Bool :=
  c.isAlphanum || c == '_' || c == '-'

/-- Whether a character may stand in a text at all. -/
def isAllowed (c : Char) : Bool :=
  let code := c.toNat
  c == '\t' || c == '\n' || c == '\r' || (0x20 ≤ code && code ≤ 0x7E) || code == 0x85
    || (0xA0 ≤ code && code ≤ 0xD7FF) || (0xE000 ≤ code && code ≤ 0xFFFD) || 0x10000 ≤ code

/-- The mark of the byte order. -/
def byteOrderMark : Char := '\uFEFF'

/-- Whether a character may be written as it is. -/
def isPrintable (c : Char) : Bool :=
  let code := c.toNat
  c == '\n' || (0x20 ≤ code && code ≤ 0x7E) || (0xA0 ≤ code && code ≤ 0xD7FF)
    || (0xE000 ≤ code && code ≤ 0xFFFD && c != byteOrderMark) || 0x10000 ≤ code

/-- Whether a character means something else than a plain text where it comes first. -/
def isIndicator (c : Char) : Bool :=
  "#,[]\x7b\x7d&*!|>'\"%@\x60".toList.contains c

end GraphLoad.Yaml
