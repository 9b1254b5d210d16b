import GraphLoad.Loading.Options
import GraphLoad.Schema.Resolve

/-! The ways in which a model cannot be compiled to statements. -/

namespace GraphLoad.Cypher

/-- Why no statement can be written. -/
inductive CompileError where
  /-- A composite key has fewer than two members. -/
  | insufficientKey (element : ElementRef) (count : Nat)
  /-- A node has no property to be merged or matched on. -/
  | noIdentifyingProperties (label : String)
  /-- The node given for an end of a relationship has another label than the end. -/
  | endpointMismatch (type : String) (endpoint : Endpoint) (expected actual : String)
  /-- Two constraints are given one name. -/
  | nameCollision (name first second : String)
  /-- The options break limits. -/
  | invalidOptions (problems : List OptionProblem)
  /-- A transaction of a bulk load would hold no row. -/
  | emptyBatch
  /-- The model breaks rules that statements rest on. -/
  | invalidModel (faults : List Fault)
  /-- A part of the model cannot be found. -/
  | unresolved (error : ModelError)
deriving DecidableEq, Repr

namespace CompileError

/-- The error in words. -/
def message : CompileError → String
  | insufficientKey element count =>
    "A " ++ element.kind ++ " key on " ++ element.name ++ " needs at least two properties, got "
      ++ toString count ++ " (use a uniqueness constraint for a single property)"
  | noIdentifyingProperties label =>
    "Node " ++ label ++ " has no unique or key property to match or merge on"
  | endpointMismatch type endpoint expected actual =>
    "Relationship " ++ type ++ " expects " ++ endpoint.name ++ " node " ++ expected
      ++ " but was given " ++ actual
  | nameCollision name first second =>
    "Constraint name " ++ name ++ " is derived from both " ++ first ++ " and " ++ second
      ++ "; rename one of the properties"
  | invalidOptions problems =>
    "Invalid generator configuration: " ++ OptionProblem.report problems
  | emptyBatch => "Batch size must be a positive number of rows"
  | invalidModel faults => "Data model cannot be compiled:\n" ++ Fault.report faults
  | unresolved error => "Data model error: " ++ error.message

end CompileError

end GraphLoad.Cypher
