import GraphLoad.Proofs.Cypher.Body
import GraphLoad.Proofs.Cypher.ConstraintList
import GraphLoad.Proofs.Schema.Blocking
import GraphLoad.Proofs.Schema.Plan
import GraphLoad.Proofs.Schema.StructuralFaults

/-! What stands in the way of compiling a model that nobody checked, and that a check finds just
that. -/

namespace GraphLoad

open Cypher

namespace Model

/-- A fault that is found without source files stops a model exactly if it is fatal. -/
theorem isFatal_eq_isBlocking {m : Model} {default : String} {d : Fault}
    (reported : d ∈ m.faults none default) : d.isFatal = d.isBlocking := by
  -- Such a fault is also found with any files, as one that does not lie in them.
  rw [← m.structuralFaults_faults {} default] at reported
  have structural := (List.mem_filter.mp reported).2
  rw [Bool.not_eq_true'] at structural
  rw [Fault.isBlocking, structural, Bool.or_false]

/-- Without source files a fatal fault is found exactly if the model is not compilable. -/
theorem exists_isFatal_iff (m : Model) (default : String) :
    (∃ d ∈ m.faults none default, d.isFatal = true) ↔ ¬m.Compilable := by
  -- Without files, the faults that block are the fatal ones.
  have same : Unblocked (m.faults none default) ↔
      ∀ d ∈ m.faults none default, d.isFatal = false :=
    forall₂_congr fun d reported => by rw [isFatal_eq_isBlocking reported]
  rw [← m.unblocked_faults_none_iff default, same]
  simp only [not_forall, Bool.not_eq_false, exists_prop]

/-- A step of compiling a model that fails when it is taken without a check. -/
inductive Obstacle (m : Model) (default : String) (strict : Bool) : Prop where
  /-- There is no work on a row of some node. -/
  | node (n : Node) (member : n ∈ m.nodes) (reason : CompileError)
      (failed : nodeBody n strict = .error reason)
  /-- An end of some relationship leads to no node. -/
  | ends (r : Relationship) (member : r ∈ m.relationships) (reason : ModelError)
      (failed : m.endpoints r = .error reason)
  /-- There is no work on a row of some relationship between the nodes at its ends. -/
  | relationship (r : Relationship) (member : r ∈ m.relationships) (source target : Node)
      (resolved : m.endpoints r = .ok (source, target)) (reason : CompileError)
      (failed : relationshipBody r source target default strict = .error reason)
  /-- There are no constraints, and that not because two of them share a name. -/
  | constraints (reason : CompileError) (failed : constraintTexts m.elements = .error reason)
      (other : ∀ name first second, reason ≠ .nameCollision name first second)

variable {m : Model}

/-- Nothing stands in the way of compiling a compilable model. -/
theorem Compilable.not_obstacle (sound : m.Compilable) (default : String) (strict : Bool) :
    ¬m.Obstacle default strict := by
  intro obstacle
  -- Whichever step is said to fail finds what it needs.
  cases obstacle with
  | node n member reason failed =>
    cases failed.symm.trans (nodeBody_eq (sound.identified n member) strict)
  | ends r member reason failed =>
    obtain ⟨source, atSource⟩ := sound.resolved r member .source
    obtain ⟨target, atTarget⟩ := sound.resolved r member .target
    cases failed.symm.trans (endpoints_eq_ok_iff.mpr ⟨atSource, atTarget⟩)
  | relationship r member source target resolved reason failed =>
    -- Nodes found by the labels of the ends pass the comparison with these labels.
    obtain ⟨atSource, atTarget⟩ := endpoints_eq_ok_iff.mp resolved
    obtain ⟨sourceMember, first⟩ := node?_eq_some atSource
    obtain ⟨targetMember, second⟩ := node?_eq_some atTarget
    have written := relationshipBody_eq first second (sound.identified source sourceMember)
      (sound.identified target targetMember) default strict
    cases failed.symm.trans written
  | constraints reason failed other =>
    rcases constraintTexts_okOrCollision sound.keys with
      ⟨texts, stated⟩ | ⟨name, first, second, same⟩
    · cases failed.symm.trans stated
    · exact other name first second (Except.error.inj (failed.symm.trans same))

/-- A model with distinct labels is compilable if nothing stands in the way of compiling it. -/
theorem compilable_of_not_obstacle (labels : m.nodeLabels.Nodup) {default : String} {strict : Bool}
    (free : ¬m.Obstacle default strict) : m.Compilable where
  labels := labels
  -- Each thing that a compilable model has, if it were missing, would stop the step that needs it.
  identified n member unidentified := by
    have failed : nodeBody n strict = .error (.noIdentifyingProperties n.label) := by
      simp [nodeBody, nodePattern, unidentified, Bind.bind, Except.bind]
    exact free (.node n member _ failed)
  resolved r member e := by
    -- The ends are looked up together, so each is found if the other is.
    cases outcome : m.endpoints r with
    | error reason => exact absurd (.ends r member reason outcome) free
    | ok ends =>
      obtain ⟨atSource, atTarget⟩ := endpoints_eq_ok_iff.mp outcome
      cases e with
      | source => exact ⟨ends.1, atSource⟩
      | target => exact ⟨ends.2, atTarget⟩
  keys e member single := by
    obtain ⟨ref, failed⟩ := constraintTexts_of_single member single
    exact free (.constraints _ failed fun _ _ _ same => CompileError.noConfusion same)

/-- Where no label is reported twice, the check finds a fatal fault exactly if one of the steps of
compiling would fail: it refuses no model that could be compiled, and misses none that could not. -/
theorem fatal_iff_obstacle (m : Model) (default : String) (strict : Bool)
    (distinct : ∀ label, .duplicateLabel label ∉ m.faults none default) :
    (∃ d ∈ m.faults none default, d.isFatal = true) ↔ m.Obstacle default strict := by
  -- A label that two nodes share would have been reported.
  have labels : m.nodeLabels.Nodup := by
    rw [← repeats_eq_nil_iff, List.eq_nil_iff_forall_not_mem]
    intro label repeated
    refine distinct label ?_
    simp only [faults, checkStructure, List.append_assoc]
    exact List.mem_append_left _ (List.mem_map_of_mem repeated)
  rw [m.exists_isFatal_iff default, not_iff_comm]
  exact ⟨compilable_of_not_obstacle labels, fun sound => sound.not_obstacle default strict⟩

/-- Plants that grow in beds nobody described, with a key of a single property. -/
def orphans : Model where
  nodes := [
    { label := "Plant", properties := [{ name := "name", column := "plant", partOfKey := true }] }]
  relationships := [{ type := "GROWS_IN", source := "Plant", target := "Bed" }]

/-- The check finds a fatal fault among the plants, so something stands in the way of compiling. -/
theorem fatal_iff_obstacle_orphans :
    (∀ label, .duplicateLabel label ∉ orphans.faults none implicitSource) ∧
      (∃ d ∈ orphans.faults none implicitSource, d.isFatal = true) ∧
      orphans.Obstacle implicitSource true := by
  -- Plants grow in beds, of which the model knows nothing, and have a key with one member.
  have faults : orphans.faults none implicitSource =
      [.unknownEndpoint "GROWS_IN" .target "Bed", .singleKeyProperty (.node "Plant") "name"] := by
    decide
  have distinct : ∀ label, .duplicateLabel label ∉ orphans.faults none implicitSource := by
    simp [faults]
  have fatal : ∃ d ∈ orphans.faults none implicitSource, d.isFatal = true := by
    simp [faults, Fault.isFatal]
  exact ⟨distinct, fatal, (fatal_iff_obstacle orphans implicitSource true distinct).mp fatal⟩

end Model

end GraphLoad
