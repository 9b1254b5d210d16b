import GraphLoad.Schema.Fault

/-! Resolving the ends of a relationship to nodes, and the ways to be denied a model. -/

namespace GraphLoad

/-- Why a model, or a version of one, cannot be had. -/
inductive ModelError where
  /-- The model breaks rules and was asked for as a valid one. -/
  | invalid (faults : List Fault)
  /-- No node has the label a relationship ends at. -/
  | unknownNode (type : String) (endpoint : Endpoint) (label : String)
  /-- The history holds no version with this number. -/
  | noSuchVersion (version : Int) (size : Nat)
  /-- The history holds no version at all. -/
  | emptyHistory
deriving DecidableEq, Repr

namespace ModelError

/-- The error in words. -/
def message : ModelError → String
  | invalid faults => "Data model failed validation:\n" ++ Fault.report faults
  | unknownNode type endpoint label =>
    "No node with label `" ++ label ++ "\n  Context: Resolving " ++ endpoint.name
      ++ " of relationship " ++ type ++ "` in the data model"
  | noSuchVersion version size =>
    "Data model version " ++ toString version ++ " does not exist (history holds "
      ++ toString size ++ " versions)"
  | emptyHistory => "Data model history is empty"

end ModelError

/-- The label of the node at an end. -/
def Relationship.label (r : Relationship) : Endpoint → String
  | .source => r.source
  | .target => r.target

namespace Model

/-- The node at one end of a relationship. -/
def endpoint (m : Model) (r : Relationship) (e : Endpoint) : Except ModelError Node :=
  match m.node? (r.label e) with
  | some node => .ok node
  | none => .error (.unknownNode r.type e (r.label e))

/-- The source and the target node of a relationship. -/
def endpoints (m : Model) (r : Relationship) : Except ModelError (Node × Node) := do
  let source ← m.endpoint r .source
  let target ← m.endpoint r .target
  return (source, target)

end Model

end GraphLoad
