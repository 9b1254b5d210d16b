import GraphLoad.Proofs.Loading.ColumnCheck
import GraphLoad.Proofs.Loading.Gate
import GraphLoad.Proofs.Schema.StructuralFaults

/-! What is known of source files can have a model refused, and changes nothing that is written for
it. -/

namespace GraphLoad.Compiler

open Cypher

/-- An output on known files is the output without any, unless the model is refused for its faults
on the files. -/
def OnlyRejects (c : Compiler) (files : SourceFiles) {α : Type}
    (output : Compiler → Except CompileError α) : Prop :=
  output (c.withFiles (some files)) = output (c.withFiles none) ∨
    output (c.withFiles (some files)) = .error (.invalidModel (c.withFiles (some files)).blocking)

/-- A model that passes on files passes without any. -/
theorem check_withFiles_none {c : Compiler} {files : SourceFiles}
    (passed : (c.withFiles (some files)).check = .ok ()) : (c.withFiles none).check = .ok () := by
  -- Without files only the rules of the model itself are left to keep.
  obtain ⟨sound, _⟩ := check_withFiles_eq_ok_iff.mp passed
  exact check_eq_ok_iff.mpr ⟨sound, nofun⟩

/-- A model that passes on files has the constraints it has without any. -/
theorem constraints_withFiles {c : Compiler} {files : SourceFiles}
    (passed : (c.withFiles (some files)).check = .ok ()) :
    (c.withFiles (some files)).constraints = (c.withFiles none).constraints := by
  unfold constraints
  rw [passed, check_withFiles_none passed]
  rfl

/-- A model that passes on files has the loads it has without any. -/
theorem loads_withFiles {c : Compiler} {files : SourceFiles}
    (passed : (c.withFiles (some files)).check = .ok ()) :
    (c.withFiles (some files)).loads = (c.withFiles none).loads := by
  unfold loads
  rw [passed, check_withFiles_none passed]
  -- Behind the check, the work on an element is found in the model and the options alone.
  rfl

/-- Source files add faults of their own to those that a model has without any, and change nothing
else: what is written for a model that passes on them is what is written without files. -/
theorem files_only_reject :
    (∀ (m : Model) (files : SourceFiles) (default : String),
      (m.faults (some files) default).filter (fun d => !d.concernsColumns) =
        m.faults none default) ∧
    ∀ (c : Compiler) (files : SourceFiles) (settings : ManifestSettings),
      c.OnlyRejects files constraints ∧ c.OnlyRejects files unwindStatements ∧
        c.OnlyRejects files bulkStatements ∧ c.OnlyRejects files script ∧
        c.OnlyRejects files (·.manifest settings) := by
  refine ⟨Model.structuralFaults_faults, fun c files settings => ?_⟩
  by_cases free : (c.withFiles (some files)).blocking = []
  · -- Constraints and loads do not change, and all else is written from them.
    have passed := check_of_blocking_nil free
    have texts := constraints_withFiles passed
    have unwound : (c.withFiles (some files)).unwindStatements =
        (c.withFiles none).unwindStatements := by
      rw [unwindStatements_eq, unwindStatements_eq, loads_withFiles passed]
    have bulk : (c.withFiles (some files)).bulkStatements = (c.withFiles none).bulkStatements := by
      rw [bulkStatements_eq, bulkStatements_eq, loads_withFiles passed]
      rfl
    refine ⟨.inl texts, .inl unwound, .inl bulk, .inl ?_, .inl ?_⟩
    · unfold script
      rw [texts, bulk]
    · show (c.withFiles (some files)).manifest settings = (c.withFiles none).manifest settings
      unfold manifest
      rw [texts, unwound]
      rfl
  · -- With a fault that blocks there is no output at all.
    obtain ⟨texts, unwound, bulk, whole, list⟩ := outputs_of_blocking free settings
    exact ⟨.inr texts, .inr unwound, .inr bulk, .inr whole, .inr list⟩

end GraphLoad.Compiler
