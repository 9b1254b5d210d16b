import GraphLoad.Yaml.Char

/-! Places within a text, whose lines and columns tell how YAML is nested. -/

namespace GraphLoad.Yaml

/-- A place within a text. -/
structure Place where
  /-- The number of lines before. -/
  line : Nat := 0
  /-- The number of characters before in the line. -/
  column : Nat := 0
  /-- The number of bytes before in the line. -/
  offset : Nat := 0
deriving DecidableEq, Repr

namespace Place

/-- The place behind a character. -/
def after (p : Place) (c : Char) : Place :=
  if isBreak c then ⟨p.line + 1, 0, 0⟩ else ⟨p.line, p.column + 1, p.offset + c.utf8Size⟩

/-- The place a number of characters of one byte each further in the line. -/
def right (p : Place) (n : Nat) : Place :=
  ⟨p.line, p.column + n, p.offset + n⟩

end Place

/-- What is left of a text, and where it starts. -/
structure Cursor where
  /-- The characters that are left. -/
  rest : List Char
  /-- The place of the first of them. -/
  place : Place := {}
deriving DecidableEq, Repr

namespace Cursor

/-- Passes over a number of characters of the line. -/
def skip (c : Cursor) (n : Nat) : Cursor :=
  ⟨c.rest.drop n, (c.rest.take n).foldl Place.after c.place⟩

/-- Passes over the characters of the line before `rest`, a later part of the text. -/
def moveTo (c : Cursor) (rest : List Char) : Cursor :=
  c.skip (c.rest.length - rest.length)

/-- Passes over characters of the line as long as they are of a kind. -/
def skipWhile (c : Cursor) (p : Char → Bool) : Cursor :=
  c.skip (c.rest.takeWhile p).length

/-- Passes over white space and a comment up to the end of the line, or fails where anything else
stands there. The end of the line is passed over as well. -/
def endLine? (c : Cursor) : Option Cursor :=
  let c := c.skipWhile isLineBlank
  let c := if c.rest.head? == some '#' then c.skipWhile (!isBreak ·) else c
  match c.rest with
  | [] => some c
  | b :: rest => if isBreak b then some ⟨rest, c.place.after b⟩ else none

end Cursor

/-- Writes the ends of lines alike. The separators of lines and paragraphs are breaks of their own
kind and are left alone. -/
def unifyBreaks : List Char → List Char
  | [] => []
  | '\r' :: '\n' :: rest => '\n' :: unifyBreaks rest
  | c :: rest => (if c = '\r' ∨ c = '\u0085' then '\n' else c) :: unifyBreaks rest

/-- Whether a text that starts a line starts with a mark that separates documents. -/
def separatesDocuments (text : List Char) : Bool :=
  ("---".toList.isPrefixOf text || "...".toList.isPrefixOf text) && startsBlank (text.drop 3)

end GraphLoad.Yaml
