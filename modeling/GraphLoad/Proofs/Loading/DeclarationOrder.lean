import GraphLoad.Proofs.Loading.Gate
import GraphLoad.Proofs.Schema.Reorder

/-! The order in which a model declares its elements decides the order of what is written, and
nothing else. -/

namespace GraphLoad

open Cypher

/-- What becomes of the statements of a model when its elements are declared in other orders: it is
refused for the same faults, or its statements are taken in these orders, each as it was. -/
inductive Reordered (m : Model) (nodeOrder relationshipOrder : List Nat) :
    Except CompileError (List Statement) → Except CompileError (List Statement) → Prop where
  /-- Both models are refused. -/
  | refused {before after : List Fault} (same : after.Perm before) :
    Reordered m nodeOrder relationshipOrder (.error (.invalidModel before))
      (.error (.invalidModel after))
  /-- Both models have their statements. -/
  | stated {nodes relationships : List Statement}
      (nodeStatements : List.Forall₂ (fun n s => s.element = .node n.label) m.nodes nodes)
      (relationshipStatements :
        List.Forall₂ (fun r s => s.element = .relationship r.type) m.relationships relationships) :
    Reordered m nodeOrder relationshipOrder (.ok (nodes ++ relationships))
      (.ok (rearrange nodeOrder nodes ++ rearrange relationshipOrder relationships))

namespace Compiler

/-- The compiler of the model whose elements are declared in other orders. -/
def reorder (c : Compiler) (nodeOrder relationshipOrder : List Nat) : Compiler where
  model := c.model.reorder nodeOrder relationshipOrder
  options := c.options
  files := c.files
  valid := c.valid

variable {c : Compiler} {nodeOrder relationshipOrder : List Nat}

/-- The work on a node does not look at the model. -/
theorem nodeLoad_reorder : (c.reorder nodeOrder relationshipOrder).nodeLoad = c.nodeLoad :=
  rfl

/-- The work on a relationship looks at the model for the nodes at its ends alone. -/
theorem relationshipLoad_reorder
    (permuted : c.model.Permuted (c.model.reorder nodeOrder relationshipOrder)) :
    (c.reorder nodeOrder relationshipOrder).relationshipLoad = c.relationshipLoad := by
  funext r
  -- Distinct labels lead to the same nodes in any order.
  have ends : (c.reorder nodeOrder relationshipOrder).model.endpoints r = c.model.endpoints r :=
    permuted.endpoints_eq r
  rw [relationshipLoad, relationshipLoad, ends]
  rfl

/-- The faults that stop the model are the same. -/
theorem blocking_reorder
    (permuted : c.model.Permuted (c.model.reorder nodeOrder relationshipOrder)) :
    (c.reorder nodeOrder relationshipOrder).blocking.Perm c.blocking :=
  (permuted.faults c.files c.options.sourceName).filter _

/-- The loads of a model that passes are taken in the orders of its elements. -/
theorem loads_reorder
    (permuted : c.model.Permuted (c.model.reorder nodeOrder relationshipOrder))
    (free : c.blocking = []) :
    ∃ nodeLoads relationshipLoads, c.loads = .ok (nodeLoads ++ relationshipLoads) ∧
      (c.reorder nodeOrder relationshipOrder).loads = .ok
        (rearrange nodeOrder nodeLoads ++ rearrange relationshipOrder relationshipLoads) ∧
      c.model.nodes.mapM c.nodeLoad = .ok nodeLoads ∧
      c.model.relationships.mapM c.relationshipLoad = .ok relationshipLoads := by
  obtain ⟨loads, built, _⟩ := loads_of_check (check_of_blocking_nil free)
  obtain ⟨_, nodeLoads, relationshipLoads, nodes, relationships, rfl⟩ := loads_eq_ok_iff.mp built
  refine ⟨nodeLoads, relationshipLoads, built, ?_, nodes, relationships⟩
  -- No fault stops the other model either, and its elements are worked on as before.
  have passed : (c.reorder nodeOrder relationshipOrder).check = .ok () := by
    refine check_of_blocking_nil (List.perm_nil.mp ?_)
    rw [← free]
    exact blocking_reorder permuted
  have otherNodes := mapM_rearrange nodes nodeOrder
  have otherRelationships := mapM_rearrange relationships relationshipOrder
  rw [← nodeLoad_reorder] at otherNodes
  rw [← relationshipLoad_reorder permuted] at otherRelationships
  exact loads_eq_ok_iff.mpr ⟨passed, _, _, otherNodes, otherRelationships, rfl⟩

/-- Statements written for the loads one by one are taken in the orders of the elements. -/
theorem reordered_statements
    (permuted : c.model.Permuted (c.model.reorder nodeOrder relationshipOrder))
    {write : Load → Statement} (named : ∀ l, (write l).element = l.element) :
    Reordered c.model nodeOrder relationshipOrder (c.loads.map (List.map write))
      ((c.reorder nodeOrder relationshipOrder).loads.map (List.map write)) := by
  have same := blocking_reorder permuted
  by_cases free : c.blocking = []
  · obtain ⟨nodeLoads, relationshipLoads, built, otherBuilt, nodes, relationships⟩ :=
      loads_reorder permuted free
    rw [built, otherBuilt]
    simp only [Except.map, List.map_append, ← rearrange_map]
    -- What is written for an element names it, since its load does.
    refine .stated ?_ ?_
    · rw [List.forall₂_map_right_iff]
      refine (mapM_eq_ok_iff.mp nodes).imp fun n l loaded => ?_
      obtain ⟨body, _, rfl⟩ := nodeLoad_eq_ok_iff.mp loaded
      exact named _
    · rw [List.forall₂_map_right_iff]
      refine (mapM_eq_ok_iff.mp relationships).imp fun r l loaded => ?_
      obtain ⟨source, target, body, _, _, rfl⟩ := relationshipLoad_eq_ok_iff.mp loaded
      exact named _
  · -- Faults are only reordered, so both models are refused or neither is.
    have blocked : (c.reorder nodeOrder relationshipOrder).blocking ≠ [] := by
      intro none_
      rw [none_] at same
      exact free (List.nil_perm.mp same)
    rw [loads_of_blocking free, loads_of_blocking blocked]
    exact .refused same

/-- Declaring the elements of a model with distinct labels in other orders gives the same faults, in
some order, and the same statements of both kinds, in these orders, or none of them. -/
theorem order_immaterial (c : Compiler) (distinct : c.model.nodeLabels.Nodup)
    (nodeOrder relationshipOrder : List Nat) (nodes : IsOrder nodeOrder c.model.nodes)
    (relationships : IsOrder relationshipOrder c.model.relationships) :
    (c.reorder nodeOrder relationshipOrder).faults.Perm c.faults ∧
      Reordered c.model nodeOrder relationshipOrder c.unwindStatements
        (c.reorder nodeOrder relationshipOrder).unwindStatements ∧
      Reordered c.model nodeOrder relationshipOrder c.bulkStatements
        (c.reorder nodeOrder relationshipOrder).bulkStatements := by
  have permuted := Model.permuted_reorder distinct nodes relationships
  -- Both kinds of statements are written load by load.
  refine ⟨permuted.faults c.files c.options.sourceName, ?_, ?_⟩
  · rw [unwindStatements_eq, unwindStatements_eq]
    exact reordered_statements permuted fun _ => rfl
  · rw [bulkStatements_eq, bulkStatements_eq]
    exact reordered_statements permuted fun _ => rfl

/-- Towns, rivers, and what connects them. Neither towns nor rivers declare a file, so both are read
from that of the towns, and so is which river flows through which town. -/
def towns : Compiler where
  model := {
    nodes := [
      { label := "Town", properties := [{ name := "name", column := "town", isUnique := true }] },
      { label := "River", properties := [{ name := "name", column := "river", isUnique := true }] }]
    relationships := [
      { type := "ROAD", source := "Town", target := "Town", sourceName := some "roads.csv" },
      { type := "FLOWS_THROUGH", source := "River", target := "Town" },
      { type := "JOINS", source := "River", target := "River", sourceName := some "mouths.csv" }] }
  options := { batchSize := 20, sourceName := "towns.csv" }
  valid := by decide

/-- With rivers declared in front of towns and roads last, there are the same statements. -/
theorem order_immaterial_towns :
    towns.model.nodeLabels.Nodup ∧ IsOrder [1, 0] towns.model.nodes ∧
      IsOrder [2, 1, 0] towns.model.relationships ∧
      towns.unwindStatements.map (List.map Statement.element) =
        .ok [.node "Town", .node "River", .relationship "ROAD", .relationship "FLOWS_THROUGH",
          .relationship "JOINS"] ∧
      (towns.reorder [1, 0] [2, 1, 0]).faults.Perm towns.faults ∧
      Reordered towns.model [1, 0] [2, 1, 0] towns.unwindStatements
        (towns.reorder [1, 0] [2, 1, 0]).unwindStatements ∧
      Reordered towns.model [1, 0] [2, 1, 0] towns.bulkStatements
        (towns.reorder [1, 0] [2, 1, 0]).bulkStatements :=
  ⟨by decide, by decide, by decide, by decide,
    order_immaterial towns (by decide) [1, 0] [2, 1, 0] (by decide) (by decide)⟩

end Compiler

end GraphLoad
