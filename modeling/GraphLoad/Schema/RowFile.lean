import GraphLoad.Schema.Graph

/-! How a relationship's rows lead to the two nodes it joins, within one file or across files. -/

namespace GraphLoad

/-- An end of a relationship. -/
inductive Endpoint where
  | source
  | target
deriving DecidableEq, Repr

namespace Endpoint

/-- The end as a word inside a sentence. -/
def name : Endpoint → String
  | source => "source"
  | target => "target"

end Endpoint

/-- Whether the rows of a relationship and of its two nodes share a file. -/
inductive Layout where
  /-- One file holds the relationship and both nodes. -/
  | singleFile
  /-- At least one node is read from another file. -/
  | multiFile
deriving DecidableEq, Repr

/-- How it was decided which file holds the rows of a relationship. -/
inductive RowOrigin where
  /-- The relationship declares the file. -/
  | declared
  /-- Both nodes are read from the file, and the source node declares it. -/
  | inherited
  /-- Both nodes are read from the default file, which the source node does not declare. -/
  | assumed
  /-- The nodes are read from two files, so the default file is taken. -/
  | ambiguous
deriving DecidableEq, Repr

/-- Where the rows of a relationship are, and which columns of them find its two nodes. -/
structure EndpointPlan where
  /-- Whether all rows share a file. -/
  layout : Layout
  /-- The columns the source node is found by. -/
  sourceRole : ColumnRole
  /-- The columns the target node is found by. -/
  targetRole : ColumnRole
  /-- The file with the relationship's rows. -/
  rowFile : String
  /-- How the file was decided. -/
  origin : RowOrigin
deriving DecidableEq, Repr

namespace EndpointPlan

/-- The columns the node at an end is found by. -/
def role (plan : EndpointPlan) : Endpoint → ColumnRole
  | .source => plan.sourceRole
  | .target => plan.targetRole

/-- Whether the row file is stated in the model rather than taken by default. -/
def isRowFileDeclared (plan : EndpointPlan) : Bool :=
  plan.origin = .declared || plan.origin = .inherited

/-- Whether the model leaves open which file holds the rows. -/
def isAmbiguous (plan : EndpointPlan) : Bool :=
  plan.origin = .ambiguous

end EndpointPlan

/-- The file with a relationship's rows when its nodes are read from two given files. -/
def Relationship.rowFile (r : Relationship) (source target : Node) (default : String) :
    String × RowOrigin :=
  match r.sourceName with
  | some name => (name, .declared)
  | none =>
    if source.fileOr default = target.fileOr default then
      (source.fileOr default, if source.sourceName.isSome then .inherited else .assumed)
    else (default, .ambiguous)

/-- Plans how the rows of a relationship find its two nodes.

A node from another file is found by alias columns. On a self-relationship the target always is and
the source never; without an alias, both read the same column. -/
def Relationship.plan (r : Relationship) (source target : Node) (default : String) :
    EndpointPlan :=
  let (rowFile, origin) := r.rowFile source target default
  let sourceElsewhere := source.fileOr default ≠ rowFile
  let targetElsewhere := target.fileOr default ≠ rowFile
  { layout := if sourceElsewhere ∨ targetElsewhere then .multiFile else .singleFile
    sourceRole := if ¬ r.isSelfRelationship ∧ sourceElsewhere then .secondary else .primary
    targetRole := if r.isSelfRelationship ∨ targetElsewhere then .secondary else .primary
    rowFile
    origin }

end GraphLoad
