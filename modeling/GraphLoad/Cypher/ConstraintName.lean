/-! Constraint names: derived from labels and property names, and legal without quotes. -/

namespace GraphLoad.Cypher

/-- Whether a character may stand in a constraint name. -/
def isConstraintChar (c : Char) : Bool :=
  ('a' ≤ c && c ≤ 'z') || ('0' ≤ c && c ≤ '9') || c == '_'

/-- The constraint characters a character becomes when it is made small.

Beyond ASCII, only the Kelvin sign and the capital I with a dot have small forms with a Latin
letter, and the dot leaves a mark of its own. All others leave a placeholder. -/
def constraintChars (c : Char) : List Char :=
  if c = '\u212A' then ['k']
  else if c = '\u0130' then ['i', '_']
  else if isConstraintChar c.toLower then [c.toLower]
  else ['_']

/-- A text as a legal constraint name; a leading digit gets an underscore in front. -/
def sanitize (text : String) : String :=
  let name := text.toList.flatMap constraintChars
  String.ofList (if name.head?.any Char.isDigit then '_' :: name else name)

end GraphLoad.Cypher
