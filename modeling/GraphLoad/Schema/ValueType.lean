import GraphLoad.Text.Blank

/-! The types of property values and their spellings. -/

namespace GraphLoad

/-- What kind of value a property holds. -/
inductive ValueType where
  | text
  | integer
  | float
  | boolean
  | date
  | time
  | dateTime
  | cartesianPoint
  | geographicPoint
  /-- A spelling outside the vocabulary; its values are handled like texts. -/
  | unknown
deriving DecidableEq, Repr

namespace ValueType

/-- The canonical spelling of a value type. -/
def name : ValueType → String
  | text => "str"
  | integer => "int"
  | float => "float"
  | boolean => "bool"
  | date => "Date"
  | time => "Time"
  | dateTime => "DateTime"
  | cartesianPoint => "CartesianPoint"
  | geographicPoint => "WGS84Point"
  | unknown => "unknown"

/-- The value type with an unqualified spelling. -/
def ofShortName : String → ValueType
  | "str" | "string" => text
  | "int" | "integer" => integer
  | "float" => float
  | "bool" | "boolean" => boolean
  | "Date" => date
  | "Time" => time
  | "DateTime" => dateTime
  | "CartesianPoint" => cartesianPoint
  | "WGS84Point" => geographicPoint
  | _ => unknown

/-- Removes the module a driver puts in front of its type names. -/
def unqualified (spelling : List Char) : List Char :=
  match "neo4j.time.".toList.isPrefixOf? spelling with
  | some short => short
  | none => ("neo4j.spatial.".toList.isPrefixOf? spelling).getD spelling

/-- The value type with a spelling, which blanks may surround and a driver's module may qualify. -/
def ofName (spelling : String) : ValueType :=
  -- Blanks are dropped once, before the qualifier: `neo4j.time. Date` is no spelling of a date.
  ofShortName (String.ofList (unqualified (trimBlanks spelling.toList)))

/-- Whether values are points, on a plane or on the globe. -/
def isPoint : ValueType → Bool
  | cartesianPoint | geographicPoint => true
  | _ => false

end ValueType

end GraphLoad
