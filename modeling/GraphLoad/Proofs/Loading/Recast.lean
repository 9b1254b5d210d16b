import GraphLoad.Proofs.Cypher.Recast
import GraphLoad.Proofs.Loading.Loads

/-! Compilers of recast models: where the check and the plans do not change, what is written changes
in nothing but the names of files. -/

namespace GraphLoad

open Cypher

/-- The load with another name for its file. -/
def Load.renameFile (f : String → String) (l : Load) : Load :=
  { l with sourceName := f l.sourceName }

/-- The statement with another name for its file. -/
def Statement.renameFile (f : String → String) (s : Statement) : Statement :=
  { s with sourceName := f s.sourceName }

namespace Compiler

/-- All that one compiler writes is what another one writes, and so are its refusals. -/
structure WritesAlike (c d : Compiler) : Prop where
  /-- The constraints are the same. -/
  constraints : d.constraints = c.constraints
  /-- The statements over parameters are the same. -/
  unwindStatements : d.unwindStatements = c.unwindStatements
  /-- The statements over files are the same. -/
  bulkStatements : d.bulkStatements = c.bulkStatements
  /-- The scripts are the same. -/
  script : d.script = c.script
  /-- The manifests are the same. -/
  manifest : ∀ settings, d.manifest settings = c.manifest settings

/-- What is written depends on the constraints, on the loads, and on how files are submitted. -/
theorem writesAlike_of_loads {c d : Compiler} (constraints : d.constraints = c.constraints)
    (loads : d.loads = c.loads) (method : d.options.method = c.options.method)
    (batchSize : d.options.batchSize = c.options.batchSize)
    (fileDirectory : d.options.fileDirectory = c.options.fileDirectory) : c.WritesAlike d := by
  have unwound : d.unwindStatements = c.unwindStatements := by
    rw [unwindStatements_eq, unwindStatements_eq, loads]
  have bulk : d.bulkStatements = c.bulkStatements := by
    -- A statement over a file is written from its load and the three options.
    have written : Load.bulkStatement d.options = Load.bulkStatement c.options := by
      funext l
      rw [Load.bulkStatement, Load.bulkStatement, method, batchSize, fileDirectory]
    rw [bulkStatements_eq, bulkStatements_eq, loads, written]
  refine ⟨constraints, unwound, bulk, ?_, fun settings => ?_⟩
  · rw [script, script, constraints, bulk]
  · rw [manifest, manifest, constraints, unwound, batchSize]

/-- Where only reports of open row files change, a model is refused for the faults it was refused
for, if it is. -/
theorem check_of_onlyAmbiguity {c d : Compiler} {change : Fault → Option Fault}
    (only : OnlyAmbiguity change) (reported : d.faults = c.faults.filterMap change) :
    d.check = c.check := by
  rw [check, check, reported, only.filter_isBlocking]

/-- A compiler works on the recast model of another one: it refuses, reads and plans alike, with
other names for the files. -/
structure Recasts (c d : Compiler) (v : Recast) (f : String → String) : Prop where
  /-- The model is recast. -/
  model : d.model = c.model.recast v
  /-- It is refused for the same faults, if it is. -/
  check : d.check = c.check
  /-- Its properties are read alike. -/
  reads : v.ReadsAlike c.options.strictTyping d.options.strictTyping
  /-- Its nodes are read from the renamed files. -/
  nodeSource : ∀ n, d.nodeSource (v.node n) = f (c.nodeSource n)
  /-- Its relationships are planned as before, with their rows in the renamed files. -/
  plan : ∀ r source target, c.model.endpoints r = .ok (source, target) → ∃ origin,
    (v.relationship r).plan (v.node source) (v.node target) d.options.sourceName =
      { r.plan source target c.options.sourceName with
        rowFile := f (r.plan source target c.options.sourceName).rowFile, origin }

namespace Recasts

variable {c d : Compiler} {v : Recast} {f : String → String}

/-- The constraints do not change. -/
theorem constraints (recasts : c.Recasts d v f) : d.constraints = c.constraints := by
  rw [Compiler.constraints, Compiler.constraints, recasts.check, recasts.model,
    constraintTexts_recast]

/-- The work on a node does not change, apart from the name of its file. -/
theorem nodeLoad (recasts : c.Recasts d v f) (n : Node) :
    d.nodeLoad (v.node n) = (c.nodeLoad n).map (Load.renameFile f) := by
  rw [Compiler.nodeLoad, Compiler.nodeLoad, nodeBody_recast recasts.reads, recasts.nodeSource]
  cases nodeBody n c.options.strictTyping with
  | error reason => rfl
  | ok body => rfl

/-- The work on a relationship does not change, apart from the name of its row file. -/
theorem relationshipLoad (recasts : c.Recasts d v f) (r : Relationship) :
    d.relationshipLoad (v.relationship r) = (c.relationshipLoad r).map (Load.renameFile f) := by
  rw [Compiler.relationshipLoad, Compiler.relationshipLoad, recasts.model, Model.endpoints_recast]
  cases resolved : c.model.endpoints r with
  | error reason => rfl
  | ok ends =>
    obtain ⟨source, target⟩ := ends
    obtain ⟨origin, planned⟩ := recasts.plan r source target resolved
    -- The work is written from the plan, which differs in the name of the row file alone.
    have rows : d.relationshipSource (v.relationship r) (v.node source) (v.node target) =
        f (c.relationshipSource r source target) := by
      rw [relationshipSource, relationshipSource, planned]
    have body := relationshipBody_recast recasts.reads planned
    simp only [Except.map, Except.mapError, Prod.map, Bind.bind, Except.bind, body, rows]
    cases relationshipBody r source target c.options.sourceName c.options.strictTyping with
    | error reason => rfl
    | ok clauses => rfl

/-- The loads do not change, apart from the names of files. -/
theorem loads (recasts : c.Recasts d v f) :
    d.loads = c.loads.map (List.map (Load.renameFile f)) := by
  -- The work on an element is the same up to the name of its file.
  have nodes : (c.model.nodes.map v.node).mapM d.nodeLoad =
      (c.model.nodes.mapM c.nodeLoad).map (List.map (Load.renameFile f)) :=
    mapM_eq_map_of_forall fun n _ => recasts.nodeLoad n
  have relationships : (c.model.relationships.map v.relationship).mapM d.relationshipLoad =
      (c.model.relationships.mapM c.relationshipLoad).map (List.map (Load.renameFile f)) :=
    mapM_eq_map_of_forall fun r _ => recasts.relationshipLoad r
  rw [Compiler.loads, Compiler.loads, recasts.check, recasts.model, Model.nodes_recast,
    Model.relationships_recast, nodes, relationships]
  -- The check comes first, then the nodes, then the relationships, and the first failure counts.
  cases c.check with
  | error reason => rfl
  | ok passed =>
    cases c.model.nodes.mapM c.nodeLoad with
    | error reason => rfl
    | ok nodeLoads =>
      cases c.model.relationships.mapM c.relationshipLoad with
      | error reason => rfl
      | ok relationshipLoads => exact congrArg Except.ok List.map_append.symm

/-- The statements over parameters do not change, apart from the names of files. -/
theorem unwindStatements (recasts : c.Recasts d v f) :
    d.unwindStatements = c.unwindStatements.map (List.map (Statement.renameFile f)) := by
  rw [unwindStatements_eq, unwindStatements_eq, recasts.loads]
  cases c.loads with
  | error reason => rfl
  | ok loads =>
    -- The text of such a statement does not name the file of its load.
    have each : Load.unwind ∘ Load.renameFile f = Statement.renameFile f ∘ Load.unwind := rfl
    simp only [Except.map, List.map_map, each]

/-- If no file is renamed, all that is written stays the same. -/
theorem writesAlike (recasts : c.Recasts d v id) (method : d.options.method = c.options.method)
    (batchSize : d.options.batchSize = c.options.batchSize)
    (fileDirectory : d.options.fileDirectory = c.options.fileDirectory) : c.WritesAlike d := by
  have loads : d.loads = c.loads := by
    -- Loads are all that statements are written from, and none of them moves to another file.
    have unnamed : List.map (Load.renameFile id) = id := List.map_id_fun
    rw [recasts.loads, unnamed]
    cases c.loads with
    | error reason => rfl
    | ok loads => rfl
  exact writesAlike_of_loads recasts.constraints loads method batchSize fileDirectory

end Recasts

end Compiler

end GraphLoad
