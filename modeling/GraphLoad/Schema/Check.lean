import GraphLoad.Schema.Resolve
import GraphLoad.Schema.SourceFiles

/-! Checking a model: every broken rule is reported, in a fixed order, and none stops the check. -/

namespace GraphLoad

/-- The items that occur more than once, each at the place of its second occurrence. -/
def repeats {α : Type} [BEq α] (items : List α) : List α :=
  go [] items
where
  /-- The repeats among `items` when `seen` came before. -/
  go (seen : List α) : List α → List α
    | [] => []
    | item :: rest =>
      -- Only the second occurrence finds exactly one before it.
      if seen.count item = 1 then item :: go (item :: seen) rest else go (item :: seen) rest

namespace Element

/-- Reports property names that occur more than once. -/
def checkNames (e : Element) : List Fault :=
  (repeats e.propertyNames).map (.duplicateProperty e.ref)

/-- Reports a composite key with a single member. -/
def checkKey (e : Element) : Option Fault :=
  match e.key with
  | [only] => some (.singleKeyProperty e.ref only.name)
  | _ => none

/-- Reports a declared source file that is not known. -/
def checkSource (e : Element) (files : SourceFiles) : List Fault :=
  match e.sourceName with
  | some name => if files.contains name then [] else [.unknownSource e.ref name files.names]
  | none => []

/-- Reports properties whose column is missing; nothing is missing from a file that is not known. -/
def checkColumns (e : Element) (files : SourceFiles) : List Fault :=
  match files.columnsFor e.sourceName with
  | some columns =>
    (e.properties.filter fun p => !columns.contains p.column).map fun p =>
      .missingColumn e.ref p.name p.column
  | none => []

/-- Reports faults of names, key and columns. -/
def checkProperties (e : Element) (files : SourceFiles) : List Fault :=
  e.checkNames ++ e.checkKey.toList ++ e.checkColumns files

/-- Reports all faults within the element; columns are looked at only if files are given. -/
def check (e : Element) : Option SourceFiles → List Fault
  | some files => e.checkSource files ++ e.checkProperties files
  | none => e.checkNames ++ e.checkKey.toList

end Element

namespace Model

/-- Reports the ends of a relationship whose label no node has. -/
def checkEnds (m : Model) (r : Relationship) : List Fault :=
  [Endpoint.source, Endpoint.target].filterMap fun e =>
    if (m.node? (r.label e)).isSome then none else some (.unknownEndpoint r.type e (r.label e))

/-- Reports a relationship that leaves open which file holds its rows. -/
def checkRowFile (m : Model) (default : String) (r : Relationship) : List Fault :=
  match r.sourceName, m.node? r.source, m.node? r.target with
  | none, some source, some target =>
    if source.fileOr default = target.fileOr default then []
    else [.ambiguousSource r.type (source.fileOr default) (target.fileOr default)]
  | _, _, _ => []

/-- Reports the faults that concern several elements at once. -/
def checkStructure (m : Model) (default : String) : List Fault :=
  (repeats m.nodeLabels).map .duplicateLabel
    ++ (m.nodes.filter (·.identifying.isEmpty)).map (fun n => .noIdentifyingProperty n.label)
    ++ (repeats (m.relationships.map fun r => (r.type, r.source, r.target))).map
      (fun (type, source, target) => .duplicateRelationship type source target)
    ++ m.relationships.flatMap fun r => m.checkEnds r ++ m.checkRowFile default r

/-- The columns known of a relationship's row file. -/
def rowColumns (files : SourceFiles) (plan : EndpointPlan) : Option (List String) :=
  if plan.isRowFileDeclared then files.columnsFor (some plan.rowFile)
  else files.columnsFor none <|> files.columnsFor (some plan.rowFile)

/-- Reports the columns that a node at one end is found by and the row file lacks.

A node read from the row file by its own columns is left to the check of the node. -/
def checkEndColumns (r : Relationship) (plan : EndpointPlan) (columns : List String)
    (default : String) (e : Endpoint) (n : Node) : List Fault :=
  if plan.role e = .primary ∧ n.fileOr default = plan.rowFile then []
  else
    (n.identifying.filter fun p => !columns.contains ((plan.role e).column p)).map fun p =>
      .missingEndpointColumn r.type e n.label p.name ((plan.role e).column p) plan.rowFile

/-- Reports the columns that a relationship finds its nodes by and its row file lacks. -/
def checkEndpoints (m : Model) (files : SourceFiles) (default : String) (r : Relationship) :
    List Fault :=
  match m.node? r.source, m.node? r.target with
  | some source, some target =>
    let plan := r.plan source target default
    match rowColumns files plan with
    | some columns =>
      checkEndColumns r plan columns default .source source
        ++ checkEndColumns r plan columns default .target target
    | none => []
  | _, _ => []

/-- Reports every broken rule. Elements without a source file are read from `default`, and columns
are looked at only if files are given. -/
def faults (m : Model) (files : Option SourceFiles) (default : String) : List Fault :=
  m.checkStructure default
    ++ m.elements.flatMap (·.check files)
    ++ match files with
      | some files => m.relationships.flatMap (m.checkEndpoints files default)
      | none => []

/-- The model itself if it breaks no rule on the given files. -/
def validated (m : Model) (files : SourceFiles) : Except ModelError Model :=
  match m.faults files implicitSource with
  | [] => .ok m
  | faults => .error (.invalid faults)

end Model

end GraphLoad
