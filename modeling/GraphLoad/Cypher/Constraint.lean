import GraphLoad.Cypher.CompileError
import GraphLoad.Cypher.ConstraintName
import GraphLoad.Cypher.Name

/-! Constraints: what has to be unique in the graph, and the statements that see to it. -/

namespace GraphLoad.Cypher

/-- A demand on all nodes of a label, or on all relationships of a type. -/
inductive Constraint where
  /-- No two share a value of the property. -/
  | unique (element : ElementRef) (property : String)
  /-- No two share the values of all the properties. -/
  | key (element : ElementRef) (properties : List String)
deriving DecidableEq, Repr

/-- The pattern a constraint speaks of. -/
def elementPattern : ElementRef → String
  | .node label => "(n:" ++ quoteIdentifier label ++ ")"
  | .relationship type => "()-[r:" ++ quoteIdentifier type ++ "]-()"

/-- The variable in the pattern. -/
def elementVar : ElementRef → String
  | .node _ => "n"
  | .relationship _ => "r"

/-- The words that demand a composite key. -/
def keyWords : ElementRef → String
  | .node _ => "NODE KEY"
  | .relationship _ => "RELATIONSHIP KEY"

/-- A property of the element in the pattern. -/
def propertyText (element : ElementRef) (property : String) : String :=
  elementVar element ++ "." ++ quoteIdentifier property

namespace Constraint

/-- The name, which depends on the label or type and the properties alone. -/
def name : Constraint → String
  | unique element property => sanitize (element.name ++ "_" ++ property)
  | key element properties =>
    sanitize (element.name ++ "_" ++ "_".intercalate properties ++ "_key")

/-- What the constraint was derived from, in words. -/
def origin : Constraint → String
  | unique element property => element.kind ++ " property " ++ element.name ++ "." ++ property
  | key element _ => element.kind ++ " key of " ++ element.name

/-- The element the constraint is about. -/
def element : Constraint → ElementRef
  | unique element _ | key element _ => element

/-- What the constraint demands, in the words of a statement. -/
def demand : Constraint → String
  | unique element property => propertyText element property ++ " IS UNIQUE"
  | key element properties =>
    "(" ++ ", ".intercalate (properties.map (propertyText element)) ++ ") IS " ++ keyWords element

/-- The statement that creates the constraint unless there is one of its name. -/
def text (c : Constraint) : String :=
  "CREATE CONSTRAINT " ++ c.name ++ " IF NOT EXISTS FOR " ++ elementPattern c.element
    ++ " REQUIRE " ++ c.demand ++ ";"

end Constraint

/-- The composite key over some properties; it needs at least two. -/
def keyConstraint (element : ElementRef) (properties : List Property) :
    Except CompileError Constraint :=
  if properties.length < 2 then .error (.insufficientKey element properties.length)
  else .ok (.key element (properties.map Property.name))

/-- The constraints of an element: its unique properties, then its composite key. -/
def elementConstraints (e : Element) : Except CompileError (List Constraint) := do
  let unique := e.unique.map fun p => Constraint.unique e.ref p.name
  if e.key.isEmpty then return unique
  return unique ++ [← keyConstraint e.ref e.key]

/-- Refuses constraints of which two share a name.

The second of them would be skipped without a word, since a constraint of its name exists. -/
def checkDistinct (constraints : List Constraint) : Except CompileError Unit :=
  go [] constraints
where
  /-- Refuses the first constraint whose name one of `seen` or an earlier one has. -/
  go (seen : List (String × Constraint)) : List Constraint → Except CompileError Unit
    | [] => .ok ()
    | c :: rest =>
      let name := c.name
      match seen.lookup name with
      | some first => .error (.nameCollision name first.origin c.origin)
      | none => go ((name, c) :: seen) rest

/-- Constraints of which no two share a name, for some elements in their order. -/
def distinctConstraints (elements : List Element) : Except CompileError (List Constraint) := do
  let constraints := (← elements.mapM elementConstraints).flatten
  checkDistinct constraints
  return constraints

/-- The constraint statements of some elements. -/
def constraintTexts (elements : List Element) : Except CompileError (List String) := do
  return (← distinctConstraints elements).map Constraint.text

end GraphLoad.Cypher
