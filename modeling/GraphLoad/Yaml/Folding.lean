import GraphLoad.Yaml.Char

/-! Folding: in a scalar that goes over several lines, a single line break reads as a space. -/

namespace GraphLoad.Yaml

/-- White space that may turn out to be inside a scalar, read so far. Lists have the latest first.
-/
inductive Gap where
  /-- White space within a line. -/
  | blanks (chars : List Char)
  /-- The end of a line, unless it is escaped, and the breaks of the empty lines after it. White
  space around them is dropped. -/
  | lines (first : Option Char) (further : List Char)
deriving DecidableEq, Repr

namespace Gap

/-- Adds a blank or a line break. -/
def push : Gap → Char → Gap
  | blanks chars, c => if isBreak c then lines (some c) [] else blanks (c :: chars)
  | lines first further, c => if isBreak c then lines first (c :: further) else lines first further

/-- What the gap stands for, latest first. -/
def content : Gap → List Char
  | blanks chars => chars
  | lines (some '\n') [] => [' ']
  | lines (some '\n') further => further
  | lines (some c) further => further ++ [c]
  | lines none further => further

/-- Whether the gap has characters. -/
def isEmpty : Gap → Bool
  | blanks chars => chars.isEmpty
  | lines .. => false

/-- Whether a line has ended in the gap. -/
def hasBreak : Gap → Bool
  | blanks _ => false
  | lines .. => true

end Gap

/-- A scalar read so far. -/
structure Folded where
  /-- The characters up to the last that is not white space, latest first. -/
  kept : List Char := []
  /-- The white space after them. -/
  gap : Gap := .blanks []
deriving DecidableEq, Repr

namespace Folded

/-- Adds a character that is kept as it is. -/
def keep (f : Folded) (c : Char) : Folded where
  kept := c :: (f.gap.content ++ f.kept)

/-- Adds a blank or a line break. -/
def space (f : Folded) (c : Char) : Folded :=
  { f with gap := f.gap.push c }

/-- Adds a character of either kind. -/
def push (f : Folded) (c : Char) : Folded :=
  if isLineBlank c || isBreak c then f.space c else f.keep c

/-- Adds the escaped end of a line. -/
def join (f : Folded) : Folded where
  kept := f.gap.content ++ f.kept
  gap := .lines none []

/-- The text with the white space at its end. -/
def closed (f : Folded) : List Char :=
  (f.gap.content ++ f.kept).reverse

/-- The text without white space at its end. -/
def trimmed (f : Folded) : List Char :=
  f.kept.reverse

end Folded

end GraphLoad.Yaml
