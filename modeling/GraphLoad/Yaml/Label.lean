import GraphLoad.Text.Count
import GraphLoad.Yaml.Place
import GraphLoad.Yaml.Token

/-! What stands in front of a node or a document: anchors, tags and directives. -/

namespace GraphLoad.Yaml

/-- Splits a text after its longest start of word characters. -/
def splitWord (text : List Char) : List Char × List Char :=
  (text.takeWhile isWordChar, text.dropWhile isWordChar)

/-- The name of an anchor at the start of a text; it has to end where a name may end. -/
def anchorName? (text : List Char) : Option (List Char) :=
  let (name, rest) := splitWord text
  let ends := startsBlank rest || rest.head?.any "?:,]\x7d%@\x60".toList.contains
  if name.isEmpty || !ends then none else some name

/-- Reads the handle of a tag, with the marks around its name; the mark at its end may be missing.
-/
def handle? : List Char → Option (List Char × List Char)
  | '!' :: text =>
    match splitWord text with
    | (name, '!' :: rest) => some ('!' :: (name ++ ['!']), rest)
    | (name, rest) => some ('!' :: name, rest)
  | _ => none

/-- Whether a character may stand in a tag. Brackets and commas may only in a tag that is given in
full. -/
def isTagChar (full : Bool) (c : Char) : Bool :=
  isWordChar c || ";/?:@&=+$.!~*'()".toList.contains c || (full && ",[]".toList.contains c)

/-- The number of bytes that follow the first byte of a character. -/
def bytesAfter? (first : Nat) : Option Nat :=
  if first < 0x80 then some 0
  else if 0xC0 ≤ first ∧ first < 0xE0 then some 1
  else if 0xE0 ≤ first ∧ first < 0xF0 then some 2
  else if 0xF0 ≤ first ∧ first < 0xF8 then some 3
  else none

/-- Reads the bytes of a tag, which may be escaped, each as two digits.

`missing` tells how many bytes the last character still lacks. -/
def tagBytes? (full : Bool) (missing : Nat) (bytes : List UInt8) :
    List Char → Option (List UInt8 × List Char)
  | '%' :: a :: b :: rest => do
    let byte ← numeral? 16 [a, b]
    let missing ← if missing = 0 then bytesAfter? byte
      else if 0x80 ≤ byte ∧ byte < 0xC0 then some (missing - 1) else none
    tagBytes? full missing (UInt8.ofNat byte :: bytes) rest
  | c :: rest =>
    if missing ≠ 0 ∨ c = '%' then none
    else if isTagChar full c then tagBytes? full 0 (UInt8.ofNat c.toNat :: bytes) rest
    else some (bytes.reverse, c :: rest)
  | [] => if missing = 0 then some (bytes.reverse, []) else none

/-- Reads the bytes of a tag, of which there is at least one unless `canBeEmpty`. A zero byte ends
what the tag says. -/
def tagText? (full canBeEmpty : Bool) (text : List Char) : Option (List UInt8 × List Char) := do
  let (bytes, rest) ← tagBytes? full 0 [] text
  if bytes.isEmpty && !canBeEmpty then none
  return (bytes.takeWhile (· != 0), rest)

/-- The bytes of a text that has word characters and exclamation marks only. -/
def wordBytes (text : List Char) : List UInt8 :=
  text.map fun c => UInt8.ofNat c.toNat

/-- Reads a tag: in full between angle brackets, with a handle that has a name, or with the primary
handle. The mark alone is a tag without a handle. -/
def tag? : List Char → Option (Token × List Char)
  | '!' :: '<' :: text => do
    match ← tagText? true false text with
    | (bytes, '>' :: rest) => some (.tag [] bytes, rest)
    | _ => none
  | text => do
    let (handle, rest) ← handle? text
    let isNamed := handle.length > 1 && handle.getLast? == some '!'
    let (bytes, rest) ← tagText? false (!isNamed) rest
    if isNamed then some (.tag handle bytes, rest)
    else
      match wordBytes (handle.drop 1) ++ bytes with
      | [] => some (.tag [] (wordBytes ['!']), rest)
      | suffix => some (.tag ['!'] suffix, rest)

/-- Reads a part of a version: a few digits. -/
def versionPart? (text : List Char) : Option (Nat × List Char) := do
  let digits := text.takeWhile Char.isDigit
  if digits.length > 9 then none
  return (← numeral? 10 digits, text.dropWhile Char.isDigit)

/-- Reads the content of a version directive. -/
def version? (text : List Char) : Option (Token × List Char) := do
  let (major, rest) ← versionPart? (text.dropWhile isLineBlank)
  match rest with
  | '.' :: rest =>
    let (minor, rest) ← versionPart? rest
    return (.version major minor, rest)
  | _ => none

/-- Reads the content of a tag directive: a handle, and what it stands for. -/
def handleDirective? (text : List Char) : Option (Token × List Char) := do
  let (name, rest) ← handle? (text.dropWhile isLineBlank)
  -- Only the primary handle may do without the mark at its end.
  if name.length > 1 ∧ name.getLast? ≠ some '!' then none
  if !rest.head?.any isLineBlank then none
  let (bytes, rest) ← tagText? true false (rest.dropWhile isLineBlank)
  if !startsBlank rest then none
  return (.handle name bytes, rest)

/-- Reads a directive behind its mark. -/
def directive? (text : List Char) : Option (Token × List Char) :=
  match splitWord text with
  | (name, rest) =>
    if !startsBlank rest then none
    else if name = "YAML".toList then version? rest
    else if name = "TAG".toList then handleDirective? rest
    else none

end GraphLoad.Yaml
