import GraphLoad.Schema.ValueType

/-! Properties of graph elements, and the source columns they are read from. -/

namespace GraphLoad

/-- An attribute of a node or relationship, and the columns its values are read from. -/
structure Property where
  /-- The key the graph stores the value under. -/
  name : String
  /-- The source column of the value. -/
  column : String
  /-- The type of the value. -/
  valueType : ValueType := .text
  /-- The source column where a row carries the property for a second element of the same kind. -/
  aliasColumn : Option String := none
  /-- No two elements share a value. -/
  isUnique : Bool := false
  /-- The property is a member of its element's composite key. -/
  partOfKey : Bool := false
deriving DecidableEq, Repr

namespace Property

/-- The column of the property in its second role: the alias, or else its only column. -/
def aliasOrColumn (p : Property) : String :=
  p.aliasColumn.getD p.column

/-- Whether the property takes part in telling two elements apart. -/
def isIdentifying (p : Property) : Bool :=
  p.isUnique || p.partOfKey

end Property

/-- Which of its two columns a property is read from. -/
inductive ColumnRole where
  /-- The property's own column. -/
  | primary
  /-- The alias, or the property's own column if it has none. -/
  | secondary
deriving DecidableEq, Repr

namespace ColumnRole

/-- The column a property is read from in this role. -/
def column : ColumnRole → Property → String
  | primary, p => p.column
  | secondary, p => p.aliasOrColumn

end ColumnRole

end GraphLoad
