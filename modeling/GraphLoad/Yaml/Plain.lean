import GraphLoad.Yaml.Folding
import GraphLoad.Yaml.Place

/-! Plain scalars, which end where something else starts. -/

namespace GraphLoad.Yaml

/-- Whether a character is a bracket, a brace or a comma. -/
def isFlowMark (c : Char) : Bool :=
  c == ',' || c == '[' || c == ']' || c == '\x7b' || c == '\x7d'

/-- Whether a plain scalar ends before the first character of a text, which is not white space.

`indent` is the least column of a line that belongs to the scalar, and `inFlow` tells whether the
scalar stands between brackets. -/
def endsPlain (inFlow : Bool) (indent : Nat) (f : Folded) (p : Place) : List Char → Bool
  | [] => true
  | c :: rest =>
    (!f.gap.isEmpty && (c == '#' || (!inFlow && p.column < indent)))
      || (p.column == 0 && separatesDocuments (c :: rest))
      || (c == ':' && startsBlank rest)
      || (inFlow && isFlowMark c)

/-- Whether a colon is followed by a mark that must not follow it between brackets. -/
def hasStrayColon : List Char → Bool
  | ':' :: c :: _ => c == '?' || isFlowMark c
  | _ => false

/-- Reads a plain scalar; white space after it is passed over as well. -/
def plain? (inFlow : Bool) (indent : Nat) (f : Folded) (p : Place) :
    List Char → Option (Folded × Cursor)
  | [] => some (f, ⟨[], p⟩)
  | c :: rest =>
    if isLineBlank c || isBreak c then
      -- Only spaces indent the lines of a scalar.
      if c = '\t' ∧ f.gap.hasBreak ∧ p.column < indent then none
      else plain? inFlow indent (f.space c) (p.after c) rest
    else if endsPlain inFlow indent f p (c :: rest) then some (f, ⟨c :: rest, p⟩)
    else if inFlow && hasStrayColon (c :: rest) then none
    else plain? inFlow indent (f.keep c) (p.after c) rest

end GraphLoad.Yaml
