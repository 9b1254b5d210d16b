import GraphLoad.Proofs.Cypher.ConstraintList
import GraphLoad.Proofs.Loading.Loads

/-! The check decides alone which models are compiled: behind it, only constraint names can still
stand in the way. -/

namespace GraphLoad.Compiler

open Cypher

/-- The statements of a model: one for each node, then one for each relationship, in declared
order, each with the element's name and file. -/
def StatesModel (c : Compiler) (statements : List Statement) : Prop :=
  ∃ nodes relationships, statements = nodes ++ relationships ∧
    List.Forall₂ (fun n s => s.element = .node n.label ∧ s.sourceName = c.nodeSource n)
      c.model.nodes nodes ∧
    List.Forall₂ (fun r s => ∃ source target, c.model.endpoints r = .ok (source, target) ∧
        s.element = .relationship r.type ∧ s.sourceName = c.relationshipSource r source target)
      c.model.relationships relationships

/-- Statements written for the loads of a model one by one are the statements of the model. -/
theorem LoadsModel.statesModel {c : Compiler} {loads : List Load} (loaded : c.LoadsModel loads)
    {write : Load → Statement} (named : ∀ l, (write l).element = l.element)
    (placed : ∀ l, (write l).sourceName = l.sourceName) : c.StatesModel (loads.map write) := by
  -- Writing goes load by load, so it keeps their order and their two parts.
  obtain ⟨nodeLoads, relationshipLoads, rfl, nodes, relationships⟩ := loaded
  refine ⟨nodeLoads.map write, relationshipLoads.map write, List.map_append, ?_, ?_⟩
  · rw [List.forall₂_map_right_iff]
    refine nodes.imp fun n l built => ?_
    exact ⟨(named l).trans built.element, (placed l).trans built.source⟩
  · rw [List.forall₂_map_right_iff]
    refine relationships.imp fun r l ⟨source, target, built⟩ => ?_
    exact ⟨source, target, built.resolved, (named l).trans built.element,
      (placed l).trans built.rows⟩

/-- A model that passes has both kinds of statements, for its elements in their order. -/
theorem statements_of_check {c : Compiler} (passed : c.check = .ok ()) :
    (∃ statements, c.unwindStatements = .ok statements ∧ c.StatesModel statements) ∧
      ∃ statements, c.bulkStatements = .ok statements ∧ c.StatesModel statements := by
  obtain ⟨loads, emitted⟩ := emits_of_check passed
  exact ⟨⟨_, emitted.unwound, emitted.model.statesModel (fun _ => rfl) fun _ => rfl⟩,
    ⟨_, emitted.bulk, emitted.model.statesModel (fun _ => rfl) fun _ => rfl⟩⟩

/-- The constraints of a model that passes can be stated unless their names collide. -/
theorem constraints_of_check {c : Compiler} (passed : c.check = .ok ()) :
    OkOrCollision c.constraints := by
  -- Single-member keys, the only other obstacle, were refused by the check.
  have sound := (check_eq_ok_iff.mp passed).1
  simp only [constraints, passed, Bind.bind, Except.bind]
  exact constraintTexts_okOrCollision sound.keys

/-- The script of a model that passes fails only by a collision among its constraints. -/
theorem script_of_check {c : Compiler} (passed : c.check = .ok ()) : OkOrCollision c.script := by
  obtain ⟨statements, written, _⟩ := (statements_of_check passed).2
  simp only [script, written]
  exact (constraints_of_check passed).bind fun _ => .ok _

/-- The manifest of a model that passes fails only by a collision among its constraints. -/
theorem manifest_of_check {c : Compiler} (passed : c.check = .ok ()) (settings : ManifestSettings) :
    OkOrCollision (c.manifest settings) := by
  obtain ⟨statements, written, _⟩ := (statements_of_check passed).1
  simp only [manifest, written]
  exact (constraints_of_check passed).bind fun _ => .ok _

/-- A model with blocking faults has no loads. -/
theorem loads_of_blocking {c : Compiler} (blocked : c.blocking ≠ []) :
    c.loads = .error (.invalidModel c.blocking) := by
  simp [loads, check_of_blocking blocked, Bind.bind, Except.bind]

/-- A model with blocking faults has no constraints. -/
theorem constraints_of_blocking {c : Compiler} (blocked : c.blocking ≠ []) :
    c.constraints = .error (.invalidModel c.blocking) := by
  simp [constraints, check_of_blocking blocked, Bind.bind, Except.bind]

/-- Every output is refused to a model with blocking faults, and all of them are reported. -/
theorem outputs_of_blocking {c : Compiler} (blocked : c.blocking ≠ [])
    (settings : ManifestSettings) :
    c.constraints = .error (.invalidModel c.blocking) ∧
      c.unwindStatements = .error (.invalidModel c.blocking) ∧
      c.bulkStatements = .error (.invalidModel c.blocking) ∧
      c.script = .error (.invalidModel c.blocking) ∧
      c.manifest settings = .error (.invalidModel c.blocking) := by
  have refused := constraints_of_blocking blocked
  have unloaded := loads_of_blocking blocked
  refine ⟨refused, ?_, ?_, ?_, ?_⟩
  · simp [unwindStatements_eq, unloaded, Except.map]
  · simp [bulkStatements_eq, unloaded, Except.map]
  -- A script and a manifest ask for the constraints before anything else.
  · simp [script, refused, Bind.bind, Except.bind]
  · simp [manifest, refused, Bind.bind, Except.bind]

/-- An error that one of the outputs of a compiler ends with. -/
def Reports (c : Compiler) (settings : ManifestSettings) (error : CompileError) : Prop :=
  c.constraints = .error error ∨ c.unwindStatements = .error error ∨
    c.bulkStatements = .error error ∨ c.script = .error error ∨
    c.manifest settings = .error error

/-- An outcome that is no worse than a collision ends with no other error. -/
theorem collision_of_okOrCollision {α : Type} {outcome : Except CompileError α}
    (tolerable : OkOrCollision outcome) {error : CompileError} (failed : outcome = .error error) :
    ∃ name first second, error = .nameCollision name first second := by
  rcases tolerable with ⟨value, rfl⟩ | ⟨name, first, second, rfl⟩
  · cases failed
  · exact ⟨name, first, second, (Except.error.inj failed).symm⟩

/-- A model with blocking faults ends with the report of them and with nothing else. -/
theorem Reports.eq_invalidModel {c : Compiler} (blocked : c.blocking ≠ [])
    {settings : ManifestSettings} {error : CompileError} (reported : c.Reports settings error) :
    error = .invalidModel c.blocking := by
  -- All outputs are the same refusal.
  obtain ⟨texts, unwound, bulk, whole, list⟩ := outputs_of_blocking blocked settings
  rcases reported with failed | failed | failed | failed | failed
  · exact (Except.error.inj (texts.symm.trans failed)).symm
  · exact (Except.error.inj (unwound.symm.trans failed)).symm
  · exact (Except.error.inj (bulk.symm.trans failed)).symm
  · exact (Except.error.inj (whole.symm.trans failed)).symm
  · exact (Except.error.inj (list.symm.trans failed)).symm

/-- A model that passes ends with no other error than a collision of names. -/
theorem Reports.eq_nameCollision {c : Compiler} (passed : c.check = .ok ())
    {settings : ManifestSettings} {error : CompileError} (reported : c.Reports settings error) :
    ∃ name first second, error = .nameCollision name first second := by
  -- The statements are there, so only what holds the constraints can fail.
  obtain ⟨⟨unwound, first, _⟩, bulk, second, _⟩ := statements_of_check passed
  rcases reported with failed | failed | failed | failed | failed
  · exact collision_of_okOrCollision (constraints_of_check passed) failed
  · exact absurd (first.symm.trans failed) nofun
  · exact absurd (second.symm.trans failed) nofun
  · exact collision_of_okOrCollision (script_of_check passed) failed
  · exact collision_of_okOrCollision (manifest_of_check passed settings) failed

/-- Blocking faults stop every output and are all reported. Without any, each element has its
statement, in order and from its file, and only colliding names can stop the constraints and what
holds them. No run ends with another error. -/
theorem outputs_gated (c : Compiler) (settings : ManifestSettings) :
    (c.blocking ≠ [] →
      c.constraints = .error (.invalidModel c.blocking) ∧
        c.unwindStatements = .error (.invalidModel c.blocking) ∧
        c.bulkStatements = .error (.invalidModel c.blocking) ∧
        c.script = .error (.invalidModel c.blocking) ∧
        c.manifest settings = .error (.invalidModel c.blocking)) ∧
    (c.blocking = [] →
      (∃ statements, c.unwindStatements = .ok statements ∧ c.StatesModel statements) ∧
        (∃ statements, c.bulkStatements = .ok statements ∧ c.StatesModel statements) ∧
        OkOrCollision c.constraints ∧ OkOrCollision c.script ∧
        OkOrCollision (c.manifest settings)) ∧
    ∀ error, c.Reports settings error →
      error = .invalidModel c.blocking ∨
        ∃ name first second, error = .nameCollision name first second := by
  refine ⟨fun blocked => outputs_of_blocking blocked settings, fun free => ?_, ?_⟩
  · have passed := check_of_blocking_nil free
    exact ⟨(statements_of_check passed).1, (statements_of_check passed).2,
      constraints_of_check passed, script_of_check passed, manifest_of_check passed settings⟩
  · intro error reported
    -- What a run ends with depends on the check alone.
    by_cases free : c.blocking = []
    · exact .inr (reported.eq_nameCollision (check_of_blocking_nil free))
    · exact .inl (reported.eq_invalidModel free)

end GraphLoad.Compiler
