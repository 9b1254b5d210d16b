/-! The blank characters of Unicode, and texts without the blanks around them. -/

namespace GraphLoad

/-- Whether a character has the Unicode property `White_Space`. -/
def isBlank (c : Char) : Bool :=
  let code := c.toNat
  (0x09 ≤ code && code ≤ 0x0D) || code == 0x20 || code == 0x85 || code == 0xA0 || code == 0x1680
    || (0x2000 ≤ code && code ≤ 0x200A) || code == 0x2028 || code == 0x2029 || code == 0x202F
    || code == 0x205F || code == 0x3000

/-- A text without the blanks it starts and ends with. -/
def trimBlanks (text : List Char) : List Char :=
  ((text.dropWhile isBlank).reverse.dropWhile isBlank).reverse

/-- A text whose capital letters from `A` to `Z` are made small. -/
def lowerLatin (text : List Char) : List Char :=
  text.map Char.toLower

end GraphLoad
