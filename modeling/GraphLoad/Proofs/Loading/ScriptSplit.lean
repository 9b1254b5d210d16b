import GraphLoad.Proofs.Cypher.Script
import GraphLoad.Proofs.Loading.Loads

/-! Scripts split back into their statements: whatever the names in a model hold, no statement ends
early and none runs into the next. -/

namespace GraphLoad

open Cypher

namespace Compiler

/-- The work of every load is well formed. -/
theorem wellFormed_loads {c : Compiler} {loads : List Load} (built : c.loads = .ok loads) :
    ∀ l ∈ loads, ∀ clause ∈ l.body, clause.WellFormed := by
  obtain ⟨_, nodeLoads, relationshipLoads, nodes, relationships, rfl⟩ := loads_eq_ok_iff.mp built
  -- Each load holds the work on one node or on one relationship.
  refine List.forall_mem_append.mpr
    ⟨forall_mem_of_mapM nodes ?_, forall_mem_of_mapM relationships ?_⟩
  · intro n l loaded
    obtain ⟨body, written, rfl⟩ := nodeLoad_eq_ok_iff.mp loaded
    exact wellFormed_nodeBody written
  · intro r l loaded
    obtain ⟨source, target, body, _, written, rfl⟩ := relationshipLoad_eq_ok_iff.mp loaded
    exact wellFormed_relationshipBody written

/-- The lines of every load are inert. -/
theorem inert_lines {c : Compiler} {loads : List Load} (built : c.loads = .ok loads) :
    ∀ l ∈ loads, ∀ line ∈ l.lines, Inert line :=
  fun l member => List.forall_mem_map.mpr fun clause listed =>
    inert_clause (wellFormed_loads built l member clause listed)

/-- What a compiler writes for constraints are statements. -/
theorem isStatement_constraints {c : Compiler} {texts : List String}
    (written : c.constraints = .ok texts) : ∀ text ∈ texts, IsStatement text := by
  simp only [Compiler.constraints, constraintTexts, bind_eq_ok_iff, Pure.pure, Except.pure,
    Except.ok.injEq] at written
  obtain ⟨_, _, constraints, _, rfl⟩ := written
  exact List.forall_mem_map.mpr fun constraint _ => isStatement_constraint constraint

/-- What a compiler writes for the rows of files are statements. -/
theorem isStatement_bulkStatements {c : Compiler} {statements : List Statement}
    (written : c.bulkStatements = .ok statements) :
    ∀ text ∈ statements.map Statement.cypher, IsStatement text := by
  -- Each is written from the lines of a load, which are inert.
  rw [bulkStatements_eq] at written
  obtain ⟨loads, built, rfl⟩ := map_eq_ok_iff.mp written
  rw [List.map_map, List.forall_mem_map]
  intro l member
  rw [Function.comp_apply, Load.bulkStatement_cypher]
  exact isStatement_bulk (inert_lines built l member) _ _ _

/-- A script splits back into the constraints and the statements over files that it was put together
from, in their order, and nothing is left over. -/
theorem script_splits {c : Compiler} {text : String} (written : c.script = .ok text) :
    ∃ constraints statements, c.constraints = .ok constraints ∧
      c.bulkStatements = .ok statements ∧
      splitScript text = (constraints ++ statements.map Statement.cypher, "") := by
  simp only [Compiler.script, bind_eq_ok_iff, Pure.pure, Except.pure, Except.ok.injEq] at written
  obtain ⟨constraints, constrained, statements, loaded, rfl⟩ := written
  refine ⟨constraints, statements, constrained, loaded, splitScript_intercalate ?_⟩
  -- Both parts of the script hold nothing but statements.
  exact List.forall_mem_append.mpr
    ⟨isStatement_constraints constrained, isStatement_bulkStatements loaded⟩

/-- Weeds, in a model whose names are full of quotes, backticks, semicolons and blank lines. -/
def weeds : Compiler where
  model := {
    nodes := [
      { label := "Weed; `", sourceName := some "it's;\n\n.csv",
        properties := [
          { name := "no`;", column := ";`;'", isUnique := true },
          { name := "';\n\n", column := "\\", valueType := .integer }] }]
    relationships := [] }
  options := { fileDirectory := "\\';" }
  valid := by decide

/-- There is a script about weeds, and it splits back into what it was put together from. -/
theorem script_splits_weeds :
    ∃ text, weeds.script = .ok text ∧
      ∃ constraints statements, weeds.constraints = .ok constraints ∧
        weeds.bulkStatements = .ok statements ∧
        splitScript text = (constraints ++ statements.map Statement.cypher, "") :=
  ⟨_, rfl, script_splits rfl⟩

end Compiler

end GraphLoad
