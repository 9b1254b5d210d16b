import GraphLoad.Proofs.Rearrange
import GraphLoad.Proofs.Schema.Blocking
import GraphLoad.Proofs.Schema.Plan

/-! Models whose elements are declared in another order: labels lead to the same nodes, and the
check reports the same faults. -/

namespace GraphLoad.Model

/-- A model with distinct labels, and one with the same elements in another order. -/
structure Permuted (m other : Model) : Prop where
  /-- No two nodes share a label. -/
  labels : m.nodeLabels.Nodup
  /-- The nodes are the same. -/
  nodes : other.nodes.Perm m.nodes
  /-- The relationships are the same. -/
  relationships : other.relationships.Perm m.relationships

/-- The model with its nodes and its relationships in other orders. -/
def reorder (m : Model) (nodeOrder relationshipOrder : List Nat) : Model where
  nodes := rearrange nodeOrder m.nodes
  relationships := rearrange relationshipOrder m.relationships

/-- Any orders lead to a model with the same elements. -/
theorem permuted_reorder {m : Model} (distinct : m.nodeLabels.Nodup)
    {nodeOrder relationshipOrder : List Nat} (nodes : IsOrder nodeOrder m.nodes)
    (relationships : IsOrder relationshipOrder m.relationships) :
    m.Permuted (m.reorder nodeOrder relationshipOrder) where
  labels := distinct
  nodes := perm_iff_exists_rearrange.mpr ⟨nodeOrder, nodes, rfl⟩
  relationships := perm_iff_exists_rearrange.mpr ⟨relationshipOrder, relationships, rfl⟩

namespace Permuted

variable {m other : Model}

/-- The labels of the other model are distinct as well. -/
theorem nodup_nodeLabels (permuted : m.Permuted other) : other.nodeLabels.Nodup :=
  (permuted.nodes.map Node.label).nodup_iff.mpr permuted.labels

/-- A label leads to the same node, wherever that is declared. -/
theorem node?_eq (permuted : m.Permuted other) (label : String) :
    other.node? label = m.node? label := by
  -- With distinct labels the first node that has the label is the only one.
  refine Option.ext fun n => ?_
  rw [node?_eq_some_iff permuted.nodup_nodeLabels, node?_eq_some_iff permuted.labels,
    permuted.nodes.mem_iff]

/-- The ends of a relationship lead to the same nodes, or are missed alike. -/
theorem endpoints_eq (permuted : m.Permuted other) (r : Relationship) :
    other.endpoints r = m.endpoints r := by
  simp only [endpoints, endpoint, permuted.node?_eq]

/-- An end that leads nowhere is reported alike. -/
theorem checkEnds_eq (permuted : m.Permuted other) (r : Relationship) :
    other.checkEnds r = m.checkEnds r := by
  simp only [checkEnds, permuted.node?_eq]

/-- An open row file is reported alike. -/
theorem checkRowFile_eq (permuted : m.Permuted other) (default : String) (r : Relationship) :
    other.checkRowFile default r = m.checkRowFile default r := by
  simp only [checkRowFile, permuted.node?_eq]

/-- Missing columns at the ends are reported alike. -/
theorem checkEndpoints_eq (permuted : m.Permuted other) (files : SourceFiles) (default : String)
    (r : Relationship) :
    other.checkEndpoints files default r = m.checkEndpoints files default r := by
  simp only [checkEndpoints, permuted.node?_eq]

/-- The elements are the same. -/
theorem elements (permuted : m.Permuted other) : other.elements.Perm m.elements :=
  (permuted.nodes.map Node.element).append (permuted.relationships.map Relationship.element)

/-- The faults that concern several elements are the same. -/
theorem checkStructure (permuted : m.Permuted other) (default : String) :
    (other.checkStructure default).Perm (m.checkStructure default) := by
  -- What is repeated, and what is filtered, does not depend on the order.
  have labels : (repeats other.nodeLabels).Perm (repeats m.nodeLabels) :=
    perm_repeats (permuted.nodes.map Node.label)
  have unidentified : (other.nodes.filter (·.identifying.isEmpty)).Perm
      (m.nodes.filter (·.identifying.isEmpty)) := permuted.nodes.filter _
  have triples : (repeats (other.relationships.map fun r => (r.type, r.source, r.target))).Perm
      (repeats (m.relationships.map fun r => (r.type, r.source, r.target))) :=
    perm_repeats (permuted.relationships.map _)
  -- Each relationship is checked against the same nodes, so only the order of the reports changes.
  have each : (fun r => other.checkEnds r ++ other.checkRowFile default r) =
      fun r => m.checkEnds r ++ m.checkRowFile default r := by
    funext r
    rw [permuted.checkEnds_eq, permuted.checkRowFile_eq]
  unfold Model.checkStructure
  rw [each]
  exact (((labels.map _).append (unidentified.map _)).append (triples.map _)).append
    (permuted.relationships.flatMap_right _)

/-- The faults are the same, in some order. -/
theorem faults (permuted : m.Permuted other) (files : Option SourceFiles) (default : String) :
    (other.faults files default).Perm (m.faults files default) := by
  have single : (other.elements.flatMap (·.check files)).Perm
      (m.elements.flatMap (·.check files)) := permuted.elements.flatMap_right _
  have front := (permuted.checkStructure default).append single
  -- The ends are looked at only if files are given.
  cases files with
  | none => exact front.append_right []
  | some known =>
    have each : other.checkEndpoints known default = m.checkEndpoints known default :=
      funext (permuted.checkEndpoints_eq known default)
    simp only [Model.faults, each]
    exact front.append (permuted.relationships.flatMap_right _)

end Permuted

end GraphLoad.Model
