import GraphLoad.Cypher.CompileError
import GraphLoad.Cypher.RowValue

/-! Clauses: what is done for a single row, as data, and the text of it. -/

namespace GraphLoad.Cypher

/-- A property key together with the value it is given or compared with. -/
structure Binding where
  /-- The property key. -/
  key : String
  /-- The value. -/
  value : RowValue
deriving DecidableEq, Repr

/-- The keys and values of properties read in a role. -/
def bindings (properties : List Property) (role : ColumnRole) (strict : Bool) : List Binding :=
  properties.map fun p => ⟨p.name, rowValue p role strict⟩

/-- Keys and values as they stand in the map of a pattern. -/
def mapText (entries : List Binding) : String :=
  ", ".intercalate (entries.map fun b => quoteIdentifier b.key ++ ": " ++ b.value.text)

/-- Keys and values as assignments to the properties of a variable. -/
def assignText (var : String) (entries : List Binding) : String :=
  ", ".intercalate
    (entries.map fun b => var ++ "." ++ quoteIdentifier b.key ++ " = " ++ b.value.text)

/-- The clause that sets properties of a variable, or no text where there is nothing to set. -/
def setText (var : String) (entries : List Binding) : String :=
  if entries.isEmpty then "" else "SET " ++ assignText var entries

/-- A node bound to a variable and identified by property values. -/
structure NodePattern where
  /-- The variable the node is bound to. -/
  var : String
  /-- The label of the node. -/
  label : String
  /-- The identifying properties and their values. -/
  keys : List Binding
deriving DecidableEq, Repr

/-- The text of a node pattern. -/
def NodePattern.text (p : NodePattern) : String :=
  "(" ++ p.var ++ ":" ++ quoteIdentifier p.label ++ " \x7b" ++ mapText p.keys ++ "\x7d)"

/-- The pattern of a node whose identifying properties are read in a role. -/
def nodePattern (n : Node) (var : String) (role : ColumnRole) (strict : Bool) :
    Except CompileError NodePattern :=
  if n.identifying.isEmpty then .error (.noIdentifyingProperties n.label)
  else .ok ⟨var, n.label, bindings n.identifying role strict⟩

/-- The variable a loaded node is bound to. -/
def nodeVar : String := "n"

/-- The variable a loaded relationship is bound to. -/
def relationshipVar : String := "r"

/-- One step of the work on a row. -/
inductive Clause where
  /-- Finds nodes. -/
  | find (patterns : List NodePattern)
  /-- Finds a node, or creates it. -/
  | mergeNode (pattern : NodePattern)
  /-- Finds the relationship between the two nodes found, or creates it. -/
  | mergeRelationship (type : String) (keys : List Binding)
  /-- Sets properties. -/
  | set (var : String) (assignments : List Binding)
deriving DecidableEq, Repr

namespace Clause

/-- The text of a clause. -/
def text : Clause → String
  | find patterns => "MATCH " ++ ", ".intercalate (patterns.map NodePattern.text)
  | mergeNode pattern => "MERGE " ++ pattern.text
  | mergeRelationship type keys =>
    "MERGE (" ++ Endpoint.source.name ++ ")-[" ++ relationshipVar ++ ":" ++ quoteIdentifier type
      ++ (if keys.isEmpty then "" else " \x7b" ++ mapText keys ++ "\x7d")
      ++ "]->(" ++ Endpoint.target.name ++ ")"
  | set var assignments => setText var assignments

/-- The values a clause reads from the row. -/
def values : Clause → List RowValue
  | find patterns => patterns.flatMap fun p => p.keys.map Binding.value
  | mergeNode pattern => pattern.keys.map Binding.value
  | mergeRelationship _ keys => keys.map Binding.value
  | set _ assignments => assignments.map Binding.value

end Clause

/-- The columns of the row that the clauses of a body read. -/
def bodyColumns (body : List Clause) : List String :=
  body.flatMap fun clause => clause.values.map RowValue.column

/-- The clause that sets an element's descriptive properties, if it has any. -/
def setClauses (var : String) (e : Element) (strict : Bool) : List Clause :=
  if e.descriptive.isEmpty then [] else [.set var (bindings e.descriptive .primary strict)]

/-- The work on a row of a node. -/
def nodeBody (n : Node) (strict : Bool) : Except CompileError (List Clause) := do
  let pattern ← nodePattern n nodeVar .primary strict
  return .mergeNode pattern :: setClauses nodeVar n.element strict

/-- Refuses a node that is not the one an end of a relationship names. -/
def checkEndpoint (r : Relationship) (e : Endpoint) (n : Node) : Except CompileError Unit :=
  if n.label = r.label e then .ok ()
  else .error (.endpointMismatch r.type e (r.label e) n.label)

/-- The clauses that find both nodes of a relationship: one within a file, else one for each. -/
def findEndpoints (r : Relationship) (source target : Node) (default : String) (strict : Bool) :
    Except CompileError (List Clause) := do
  checkEndpoint r .source source
  checkEndpoint r .target target
  let plan := r.plan source target default
  let first ← nodePattern source Endpoint.source.name plan.sourceRole strict
  let second ← nodePattern target Endpoint.target.name plan.targetRole strict
  return match plan.layout with
    | .singleFile => [.find [first, second]]
    | .multiFile => [.find [first], .find [second]]

/-- The work on a row of a relationship. -/
def relationshipBody (r : Relationship) (source target : Node) (default : String)
    (strict : Bool) : Except CompileError (List Clause) := do
  let found ← findEndpoints r source target default strict
  return found
    ++ .mergeRelationship r.type (bindings r.element.identifying .primary strict)
      :: setClauses relationshipVar r.element strict

/-- The clause that finds a node by its own columns. -/
def findNode (n : Node) (strict : Bool) : Except CompileError Clause := do
  return .find [← nodePattern n nodeVar .primary strict]

/-- The clause that finds two nodes of one kind in a row: the first by own columns, the second by
alias columns. -/
def findPair (n : Node) (strict : Bool) : Except CompileError Clause := do
  let first ← nodePattern n Endpoint.source.name .primary strict
  let second ← nodePattern n Endpoint.target.name .secondary strict
  return .find [first, second]

end GraphLoad.Cypher
