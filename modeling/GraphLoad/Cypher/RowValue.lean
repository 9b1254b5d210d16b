import GraphLoad.Cypher.Name
import GraphLoad.Schema.Column

/-! Values read from the current row, and their conversion to the types of properties. -/

namespace GraphLoad

/-- A function that turns the text of a column into a value of a property's type. -/
inductive Cypher.Conversion where
  | integer
  | float
  | boolean
  | date
  | time
  | dateTime
  | point
deriving DecidableEq, Repr

/-- The name of the function in statements. -/
def Cypher.Conversion.functionName : Cypher.Conversion → String
  | integer => "toIntegerOrNull"
  | float => "toFloatOrNull"
  | boolean => "toBooleanOrNull"
  | date => "date"
  | time => "time"
  | dateTime => "datetime"
  | point => "point"

/-- The conversion to a value type; texts need none. -/
def ValueType.conversion? : ValueType → Option Cypher.Conversion
  | integer => some .integer
  | float => some .float
  | boolean => some .boolean
  | date => some .date
  | time => some .time
  | dateTime => some .dateTime
  | cartesianPoint | geographicPoint => some .point
  | text | unknown => none

namespace Cypher

/-- A column of the current row, converted or as it stands. -/
structure RowValue where
  /-- The column read. -/
  column : String
  /-- The conversion applied, if any. -/
  conversion : Option Conversion
deriving DecidableEq, Repr

/-- The column of the current row with a name. -/
def columnText (column : String) : String :=
  "row." ++ quoteColumn column

/-- The expression for a value. -/
def RowValue.text (v : RowValue) : String :=
  match v.conversion with
  | some f => f.functionName ++ "(" ++ columnText v.column ++ ")"
  | none => columnText v.column

/-- The value of a property in a role. Without strict typing nothing is converted. -/
def rowValue (p : Property) (role : ColumnRole) (strict : Bool) : RowValue where
  column := role.column p
  conversion := if strict then p.valueType.conversion? else none

end Cypher

end GraphLoad
