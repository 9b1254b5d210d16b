import GraphLoad.Loading.Compiler
import GraphLoad.Proofs.Cypher.Body
import GraphLoad.Proofs.Schema.Blocking
import GraphLoad.Proofs.Schema.Plan

/-! The loads of a model that passes its check: one for each element, with the element's file and
columns. -/

namespace GraphLoad

open Cypher

namespace Compiler

/-- The faults of a compiler's model that stop it, in the order they are reported. -/
def blocking (c : Compiler) : List Fault :=
  c.faults.filter Fault.isBlocking

/-- A model without blocking faults passes. -/
theorem check_of_blocking_nil {c : Compiler} (free : c.blocking = []) : c.check = .ok () := by
  unfold blocking at free
  simp [check, free]

/-- A model with blocking faults is refused with all of them. -/
theorem check_of_blocking {c : Compiler} (blocked : c.blocking ≠ []) :
    c.check = .error (.invalidModel c.blocking) := by
  -- The check looks only at whether any fault is left by the filter.
  unfold blocking at blocked ⊢
  unfold check
  split
  · rename_i free
    exact absurd free blocked
  · rfl

/-- A model passes exactly when no fault blocks it. -/
theorem check_eq_ok_iff_blocking {c : Compiler} : c.check = .ok () ↔ c.blocking = [] := by
  refine ⟨fun passed => ?_, check_of_blocking_nil⟩
  by_contra blocked
  rw [check_of_blocking blocked] at passed
  cases passed

/-- A model passes exactly when it is compilable and can be read from the files that are known. -/
theorem check_eq_ok_iff {c : Compiler} :
    c.check = .ok () ↔ c.model.Compilable ∧
      ∀ files, c.files = some files → c.model.ReadableFrom files c.options.sourceName := by
  -- The faults are those of the model, whose rules were judged with and without files.
  rw [check_eq_ok_iff_blocking, blocking, filter_isBlocking_eq_nil_iff, faults]
  cases given : c.files with
  | none => simp [Model.unblocked_faults_none_iff]
  | some files => simp [Model.unblocked_faults_some_iff]

/-- A load of a node: its columns are read from its file. -/
structure LoadsNode (c : Compiler) (n : Node) (l : Load) : Prop where
  /-- The load names the node. -/
  element : l.element = .node n.label
  /-- Its rows are those of the node's file. -/
  source : l.sourceName = c.nodeSource n
  /-- It reads the columns of the node's properties and no others. -/
  columns : ∀ column, column ∈ l.columns ↔ column ∈ n.columnsRead

/-- A load of a relationship between two nodes: the columns its plan asks for are read from the row
file of the plan. -/
structure LoadsRelationship (c : Compiler) (r : Relationship) (source target : Node) (l : Load) :
    Prop where
  /-- The nodes are those at the ends of the relationship. -/
  resolved : c.model.endpoints r = .ok (source, target)
  /-- The load names the relationship. -/
  element : l.element = .relationship r.type
  /-- Its rows are those of the relationship's file. -/
  rows : l.sourceName = c.relationshipSource r source target
  /-- It reads the columns of the relationship's properties and of its ends, and no others. -/
  columns : ∀ column, column ∈ l.columns ↔
    column ∈ r.columnsRead (r.plan source target c.options.sourceName) source target

/-- The loads of a model: one for each node, then one for each relationship, in declared order. -/
def LoadsModel (c : Compiler) (loads : List Load) : Prop :=
  ∃ nodeLoads relationshipLoads, loads = nodeLoads ++ relationshipLoads ∧
    List.Forall₂ c.LoadsNode c.model.nodes nodeLoads ∧
    List.Forall₂ (fun r l => ∃ source target, c.LoadsRelationship r source target l)
      c.model.relationships relationshipLoads

/-- What holds of the file and the columns of each load of a node holds of those of each node, if
the columns count as a set. -/
theorem LoadsModel.forall_node_iff {c : Compiler} {loads : List Load} (loaded : c.LoadsModel loads)
    {P : String → List String → Prop}
    (congr : ∀ {file first second}, (∀ column : String, column ∈ first ↔ column ∈ second) →
      (P file first ↔ P file second)) :
    (∀ l ∈ loads, ∀ label, l.element = .node label → P l.sourceName l.columns) ↔
      ∀ n ∈ c.model.nodes, P (c.nodeSource n) n.columnsRead := by
  obtain ⟨nodeLoads, relationshipLoads, rfl, nodes, relationships⟩ := loaded
  -- The loads behind those of the nodes are of relationships, so nothing is asked of them.
  have others : ∀ l ∈ relationshipLoads, ∀ label, l.element = .node label →
      P l.sourceName l.columns := by
    refine (forall_mem_iff_of_forall₂ (P := fun _ => True) relationships ?_).mp fun _ _ => trivial
    rintro r l ⟨source, target, built⟩
    simp [built.element]
  rw [List.forall_mem_append, and_iff_left others]
  refine (forall_mem_iff_of_forall₂ nodes fun n l built => ?_).symm
  rw [built.source, congr built.columns]
  simp [built.element]

/-- What holds of the file and the columns of each load of a relationship holds of those of each
relationship between its nodes, if the columns count as a set. -/
theorem LoadsModel.forall_relationship_iff {c : Compiler} {loads : List Load}
    (loaded : c.LoadsModel loads) {P : String → List String → Prop}
    (congr : ∀ {file first second}, (∀ column : String, column ∈ first ↔ column ∈ second) →
      (P file first ↔ P file second)) :
    (∀ l ∈ loads, ∀ type, l.element = .relationship type → P l.sourceName l.columns) ↔
      ∀ r ∈ c.model.relationships, ∀ source target,
        c.model.node? r.source = some source → c.model.node? r.target = some target →
        P (c.relationshipSource r source target)
          (r.columnsRead (r.plan source target c.options.sourceName) source target) := by
  obtain ⟨nodeLoads, relationshipLoads, rfl, nodes, relationships⟩ := loaded
  -- The loads in front are of nodes, so nothing is asked of them.
  have others : ∀ l ∈ nodeLoads, ∀ type, l.element = .relationship type →
      P l.sourceName l.columns := by
    refine (forall_mem_iff_of_forall₂ (P := fun _ => True) nodes ?_).mp fun _ _ => trivial
    intro n l built
    simp [built.element]
  rw [List.forall_mem_append, and_iff_right others]
  refine (forall_mem_iff_of_forall₂ relationships ?_).symm
  rintro r l ⟨source, target, built⟩
  obtain ⟨first, second⟩ := Model.endpoints_eq_ok_iff.mp built.resolved
  rw [built.rows, congr built.columns]
  constructor
  · exact fun each _ _ => each source target first second
  · -- The ends of a relationship resolve in one way only.
    intro placed other another atSource atTarget
    obtain rfl := Option.some.inj (first.symm.trans atSource)
    obtain rfl := Option.some.inj (second.symm.trans atTarget)
    exact placed r.type built.element

/-- A node has a load if there is work on its rows. -/
theorem nodeLoad_eq_ok_iff {c : Compiler} {n : Node} {l : Load} :
    c.nodeLoad n = .ok l ↔
      ∃ body, nodeBody n c.options.strictTyping = .ok body ∧
        l = ⟨.node n.label, c.nodeSource n, body⟩ := by
  simp only [nodeLoad, bind_eq_ok_iff, Pure.pure, Except.pure, Except.ok.injEq]
  exact exists_congr fun body => and_congr_right fun _ => eq_comm

/-- The load built for a node is a load of the node. -/
theorem loadsNode_of_nodeLoad {c : Compiler} {n : Node} {l : Load}
    (identified : n.identifying ≠ []) (built : c.nodeLoad n = .ok l) : c.LoadsNode n l := by
  obtain ⟨body, written, rfl⟩ := nodeLoad_eq_ok_iff.mp built
  exact ⟨rfl, rfl, fun _ => mem_bodyColumns_nodeBody identified written⟩

/-- A node that can be identified has a load. -/
theorem nodeLoad_eq_ok (c : Compiler) {n : Node} (identified : n.identifying ≠ []) :
    ∃ l, c.nodeLoad n = .ok l :=
  ⟨_, nodeLoad_eq_ok_iff.mpr ⟨_, nodeBody_eq identified c.options.strictTyping, rfl⟩⟩

/-- A relationship has a load if its ends lead to nodes and there is work between these. -/
theorem relationshipLoad_eq_ok_iff {c : Compiler} {r : Relationship} {l : Load} :
    c.relationshipLoad r = .ok l ↔
      ∃ source target body, c.model.endpoints r = .ok (source, target) ∧
        relationshipBody r source target c.options.sourceName c.options.strictTyping = .ok body ∧
        l = ⟨.relationship r.type, c.relationshipSource r source target, body⟩ := by
  unfold relationshipLoad
  cases resolved : c.model.endpoints r with
  | error reason => simp [Except.mapError, Bind.bind, Except.bind]
  | ok ends =>
    obtain ⟨source, target⟩ := ends
    -- With both nodes found, only writing the work on them may fail.
    simp only [Except.mapError, bind_eq_ok_iff, Pure.pure, Except.pure, Except.ok.injEq,
      exists_eq_left', Prod.mk.injEq]
    constructor
    · rintro ⟨body, written, rfl⟩
      exact ⟨source, target, body, ⟨rfl, rfl⟩, written, rfl⟩
    · rintro ⟨_, _, body, ⟨rfl, rfl⟩, written, rfl⟩
      exact ⟨body, written, rfl⟩

/-- The load built for a relationship of a compilable model is a load of the relationship. -/
theorem loadsRelationship_of_relationshipLoad {c : Compiler} (sound : c.model.Compilable)
    {r : Relationship} {l : Load} (built : c.relationshipLoad r = .ok l) :
    ∃ source target, c.LoadsRelationship r source target l := by
  obtain ⟨source, target, body, resolved, written, rfl⟩ := relationshipLoad_eq_ok_iff.mp built
  -- Both nodes come from the model under the labels that the relationship names.
  obtain ⟨atSource, atTarget⟩ := Model.endpoints_eq_ok_iff.mp resolved
  obtain ⟨sourceMember, first⟩ := Model.node?_eq_some atSource
  obtain ⟨targetMember, second⟩ := Model.node?_eq_some atTarget
  exact ⟨source, target, resolved, rfl, rfl, fun _ =>
    mem_bodyColumns_relationshipBody first second (sound.identified source sourceMember)
      (sound.identified target targetMember) written⟩

/-- Every relationship of a compilable model has a load. -/
theorem relationshipLoad_eq_ok {c : Compiler} (sound : c.model.Compilable) {r : Relationship}
    (member : r ∈ c.model.relationships) : ∃ l, c.relationshipLoad r = .ok l := by
  -- The rules of the check are just what the work on a relationship asks of its nodes.
  obtain ⟨source, atSource⟩ := sound.resolved r member .source
  obtain ⟨target, atTarget⟩ := sound.resolved r member .target
  have resolved := Model.endpoints_eq_ok_iff.mpr ⟨atSource, atTarget⟩
  obtain ⟨sourceMember, first⟩ := Model.node?_eq_some atSource
  obtain ⟨targetMember, second⟩ := Model.node?_eq_some atTarget
  have written := relationshipBody_eq first second (sound.identified source sourceMember)
    (sound.identified target targetMember) c.options.sourceName c.options.strictTyping
  exact ⟨_, relationshipLoad_eq_ok_iff.mpr ⟨source, target, _, resolved, written, rfl⟩⟩

/-- A model has loads if it passes and all of its elements have one. -/
theorem loads_eq_ok_iff {c : Compiler} {loads : List Load} :
    c.loads = .ok loads ↔ c.check = .ok () ∧
      ∃ nodeLoads relationshipLoads, c.model.nodes.mapM c.nodeLoad = .ok nodeLoads ∧
        c.model.relationships.mapM c.relationshipLoad = .ok relationshipLoads ∧
        loads = nodeLoads ++ relationshipLoads := by
  -- The check comes first, then the nodes, then the relationships.
  simp only [Compiler.loads, bind_eq_ok_iff, Pure.pure, Except.pure, Except.ok.injEq]
  constructor
  · rintro ⟨_, passed, nodeLoads, nodes, relationshipLoads, relationships, rfl⟩
    exact ⟨passed, nodeLoads, relationshipLoads, nodes, relationships, rfl⟩
  · rintro ⟨passed, nodeLoads, relationshipLoads, nodes, relationships, rfl⟩
    exact ⟨_, passed, nodeLoads, nodes, relationshipLoads, relationships, rfl⟩

/-- A model that passes has its loads, and they are those of its elements. -/
theorem loads_of_check {c : Compiler} (passed : c.check = .ok ()) :
    ∃ loads, c.loads = .ok loads ∧ c.LoadsModel loads := by
  have sound := (check_eq_ok_iff.mp passed).1
  obtain ⟨nodeLoads, nodes⟩ := mapM_ok_of_forall (f := c.nodeLoad)
    fun n member => c.nodeLoad_eq_ok (sound.identified n member)
  obtain ⟨relationshipLoads, relationships⟩ := mapM_ok_of_forall (f := c.relationshipLoad)
    fun r member => relationshipLoad_eq_ok sound member
  have built := loads_eq_ok_iff.mpr ⟨passed, _, _, nodes, relationships, rfl⟩
  refine ⟨nodeLoads ++ relationshipLoads, built, nodeLoads, relationshipLoads, rfl, ?_, ?_⟩
  · -- Nodes are identified by membership, so it is carried along the two lists.
    have each : ∀ n l, n ∈ c.model.nodes ∧ c.nodeLoad n = .ok l → c.LoadsNode n l :=
      fun n l ⟨member, built⟩ => loadsNode_of_nodeLoad (sound.identified n member) built
    have yielded := mapM_eq_ok_iff.mp nodes
    exact ((List.forall₂_and_left _ _).mpr ⟨fun _ member => member, yielded⟩).imp each
  · exact (mapM_eq_ok_iff.mp relationships).imp
      fun r l built => loadsRelationship_of_relationshipLoad sound built

/-- Valid options put at least one row into a transaction. -/
theorem batchSize_ne_zero (c : Compiler) : c.options.batchSize ≠ 0 := by
  intro none_
  have kept := c.valid
  simp [LoadOptions.problems, none_] at kept

end Compiler

/-- The statement that reads the file of a load, under options that put rows into transactions. -/
def Load.bulkStatement (o : LoadOptions) (l : Load) : Statement :=
  ⟨l.element, l.sourceName,
    "\n".intercalate (bulkLines l.lines (o.fileDirectory ++ l.sourceName) o.method o.batchSize)⟩

/-- The text of a statement over a file. -/
theorem Load.bulkStatement_cypher (o : LoadOptions) (l : Load) :
    (l.bulkStatement o).cypher =
      "\n".intercalate (bulkLines l.lines (o.fileDirectory ++ l.sourceName) o.method o.batchSize) :=
  rfl

namespace Compiler

/-- Statements over parameters fail only where the loads do. -/
theorem unwindStatements_eq (c : Compiler) :
    c.unwindStatements = c.loads.map (List.map Load.unwind) := by
  cases built : c.loads <;>
    simp [unwindStatements, built, Except.map, Bind.bind, Except.bind, Pure.pure, Except.pure]

/-- Statements over files fail only where the loads do, since no batch is empty. -/
theorem bulkStatements_eq (c : Compiler) :
    c.bulkStatements = c.loads.map (List.map (Load.bulkStatement c.options)) := by
  -- The size of a batch is the only thing that a statement over a file can fail on.
  have each : (fun l : Load => l.bulk c.options) =
      fun l => (pure (l.bulkStatement c.options) : Except CompileError Statement) := by
    funext l
    simp [Load.bulk, Load.bulkStatement, bulkText, c.batchSize_ne_zero, Bind.bind, Except.bind,
      Pure.pure, Except.pure]
  cases built : c.loads with
  | error e => simp [bulkStatements, built, Except.map, Bind.bind, Except.bind]
  | ok loads =>
    simp only [bulkStatements, built, each, List.mapM_pure, Bind.bind, Except.bind]
    rfl

/-- The loads that a compiler builds and writes all its statements from. -/
structure Emits (c : Compiler) (loads : List Load) : Prop where
  /-- They are built without an error. -/
  built : c.loads = .ok loads
  /-- They are the loads of the model. -/
  model : c.LoadsModel loads
  /-- The statements over parameters are written from them, one by one. -/
  unwound : c.unwindStatements = .ok (loads.map Load.unwind)
  /-- So are the statements over files. -/
  bulk : c.bulkStatements = .ok (loads.map (Load.bulkStatement c.options))

/-- A model that passes has its loads and is written from them. -/
theorem emits_of_check {c : Compiler} (passed : c.check = .ok ()) : ∃ loads, c.Emits loads := by
  obtain ⟨loads, built, model⟩ := loads_of_check passed
  -- Both kinds of statements are written from the loads.
  refine ⟨loads, built, model, ?_, ?_⟩
  · rw [unwindStatements_eq, built]
    rfl
  · rw [bulkStatements_eq, built]
    rfl

end Compiler

end GraphLoad
