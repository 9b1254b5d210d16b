import GraphLoad.Proofs.Loading.Recast
import GraphLoad.Proofs.Loading.UndeclaredFiles

/-! Models that declare every file they are read from: writing out the files that a model leaves
open changes nothing but the complaint that they are open. -/

namespace GraphLoad

namespace Model

/-- The file that a relationship declares once files are written out: its own, or else that of its
rows. It stays open where an end leads to no node. -/
def explicitRowFile (m : Model) (default : String) (r : Relationship) : Option String :=
  match r.sourceName, m.endpoints r with
  | some name, _ => some name
  | none, .ok (source, target) => some (r.plan source target default).rowFile
  | none, .error _ => none

/-- Writes out the files that a model leaves open, which are read from `default`. -/
def writeOut (m : Model) (default : String) : Recast :=
  .ofFiles (fun n => some (n.fileOr default)) (m.explicitRowFile default)

/-- The model with all files written out. -/
def explicit (m : Model) (default : String) : Model :=
  m.recast (m.writeOut default)

variable {m : Model} {default : String}

/-- A relationship whose ends lead to nodes declares the file of its rows. -/
theorem explicitRowFile_of_endpoints {r : Relationship} {source target : Node}
    (resolved : m.endpoints r = .ok (source, target)) :
    m.explicitRowFile default r = some (r.plan source target default).rowFile := by
  unfold explicitRowFile
  cases declared : r.sourceName with
  -- A file that was declared is also the one that the plan goes by.
  | some name => rw [Relationship.plan_rowFile, Relationship.rowFile_of_declared declared]
  | none => rw [resolved]

/-- With all files written out the rows are found as before, but in a declared file. -/
theorem plan_writeOut {r : Relationship} {source target : Node}
    (resolved : m.endpoints r = .ok (source, target)) :
    ((m.writeOut default).relationship r).plan ((m.writeOut default).node source)
        ((m.writeOut default).node target) default =
      { r.plan source target default with origin := .declared } := by
  -- The branch that decides on the row file is another one, but the file is the same.
  have declared : ((m.writeOut default).relationship r).sourceName =
      some (r.plan source target default).rowFile := explicitRowFile_of_endpoints resolved
  have rows : ((m.writeOut default).relationship r).rowFile ((m.writeOut default).node source)
      ((m.writeOut default).node target) default =
        ((r.plan source target default).rowFile, .declared) :=
    Relationship.rowFile_of_declared declared
  -- Layout and roles compare this file with those of the nodes, which are read as before.
  rw [Relationship.plan, rows]
  rfl

/-- With all files written out no row file is open. -/
theorem checkRowFile_explicit (r : Relationship) :
    (m.explicit default).checkRowFile default ((m.writeOut default).relationship r) = [] := by
  rw [explicit, checkRowFile_recast]
  split
  · rename_i source target open_ atSource atTarget
    -- A relationship between nodes that are found declares a file, so it is not open.
    have declared : m.explicitRowFile default r = some (r.plan source target default).rowFile :=
      explicitRowFile_of_endpoints (endpoints_eq_ok_iff.mpr ⟨atSource, atTarget⟩)
    cases open_.symm.trans declared
  · rfl

/-- Dropping the reports of open row files gives no reason to refuse a model. -/
theorem onlyAmbiguity_drop : OnlyAmbiguity (Option.guard fun d => !d.isAmbiguity) where
  kept d plain := by simp [plain]
  tolerated d other open_ changed := by simp [open_] at changed

/-- Writing out the files of a model settles the complaints that they are open, and no others. -/
theorem faults_explicit : (m.explicit default).faults none default =
    (m.faults none default).filter fun d => !d.isAmbiguity := by
  rw [← List.filterMap_eq_filter]
  refine faults_none_recast onlyAmbiguity_drop fun r => ?_
  rw [← explicit, checkRowFile_explicit, List.filterMap_eq_filter]
  -- All that can be said of a row file is that it is open, so nothing is left.
  symm
  rw [List.filter_eq_nil_iff]
  intro d reported
  simp [m.isAmbiguity_of_mem_checkRowFile reported]

end Model

namespace Compiler

/-- The compiler of the model with all files written out. -/
def explicit (c : Compiler) : Compiler :=
  c.withModel (c.model.explicit c.options.sourceName)

/-- Without knowledge of the files, writing them out gives no reason to refuse a model, and takes
none away. -/
theorem check_explicit (c : Compiler) (alone : c.files = none) : c.explicit.check = c.check := by
  have own : c.explicit.files = none := alone
  refine check_of_onlyAmbiguity Model.onlyAmbiguity_drop ?_
  rw [Compiler.faults, Compiler.faults, own, alone, List.filterMap_eq_filter]
  exact Model.faults_explicit

/-- Without knowledge of the files, the model with all files written out is refused, read and
planned as the model itself. -/
theorem recasts_explicit (c : Compiler) (alone : c.files = none) :
    c.Recasts c.explicit (c.model.writeOut c.options.sourceName) id where
  model := rfl
  check := c.check_explicit alone
  reads _ _ := rfl
  nodeSource _ := rfl
  -- The file that is written out is the one that the plan has found.
  plan _ _ _ resolved := ⟨.declared, Model.plan_writeOut resolved⟩

/-- Without knowledge of the files, a model and the model with all files written out pass alike, and
whatever is written for one of them is written for the other. -/
theorem explicit_writesAlike (c : Compiler) :
    (c.withFiles none).explicit.check = (c.withFiles none).check ∧
      (c.withFiles none).WritesAlike (c.withFiles none).explicit := by
  have recasts := (c.withFiles none).recasts_explicit rfl
  exact ⟨recasts.check, recasts.writesAlike rfl rfl rfl⟩

end Compiler

end GraphLoad
