import GraphLoad.Cypher.Constraint
import GraphLoad.Proofs.Cypher.Body
import GraphLoad.Proofs.Schema.Recast

/-! The work on the rows of recast elements: it is the work there was, if properties are read alike
and the nodes of relationships are looked for alike. The constraints are those there were. -/

namespace GraphLoad

open Cypher

/-- Recast properties under one typing are read as the properties themselves are under another. -/
def Recast.ReadsAlike (v : Recast) (strict after : Bool) : Prop :=
  ∀ p role, rowValue (v.property p) role after = rowValue p role strict

namespace Cypher

variable {v : Recast} {strict after : Bool}

/-- Recast properties are bound to the values they were bound to. -/
theorem bindings_recast (alike : v.ReadsAlike strict after) (properties : List Property)
    (role : ColumnRole) :
    bindings (properties.map v.property) role after = bindings properties role strict := by
  rw [bindings, bindings, List.map_map]
  refine List.map_congr_left fun p _ => ?_
  rw [Function.comp_apply, v.name, alike p role]

/-- What is set of a recast element is what was set of it. -/
theorem setClauses_recast (alike : v.ReadsAlike strict after) (var : String) (e : Element)
    (file : Option String) :
    setClauses var (v.element e file) after = setClauses var e strict := by
  rw [setClauses, setClauses, v.element_descriptive, List.isEmpty_map, bindings_recast alike]

/-- The pattern of a recast node is the pattern it had. -/
theorem nodePattern_recast (alike : v.ReadsAlike strict after) (n : Node) (var : String)
    (role : ColumnRole) :
    nodePattern (v.node n) var role after = nodePattern n var role strict := by
  rw [nodePattern, nodePattern, v.node_identifying, List.isEmpty_map, bindings_recast alike,
    v.node_label]

/-- The work on a row of a recast node is the work there was. -/
theorem nodeBody_recast (alike : v.ReadsAlike strict after) (n : Node) :
    nodeBody (v.node n) after = nodeBody n strict := by
  rw [nodeBody, nodeBody, nodePattern_recast alike, v.node_element, setClauses_recast alike]

/-- A recast node fits the recast end of a relationship as the node itself fitted the end. -/
theorem checkEndpoint_recast (r : Relationship) (e : Endpoint) (n : Node) :
    checkEndpoint (v.relationship r) e (v.node n) = checkEndpoint r e n := by
  rw [checkEndpoint, checkEndpoint, v.relationship_label, v.node_label, v.relationship_type]

/-- The work on a row of a recast relationship is the work there was, if its plan is the one there
was up to the name and the origin of its row file. -/
theorem relationshipBody_recast (alike : v.ReadsAlike strict after) {r : Relationship}
    {source target : Node} {default other rowFile : String} {origin : RowOrigin}
    (planned : (v.relationship r).plan (v.node source) (v.node target) other =
      { r.plan source target default with rowFile, origin }) :
    relationshipBody (v.relationship r) (v.node source) (v.node target) other after =
      relationshipBody r source target default strict := by
  -- Layout and roles are all that the clauses take from the plan.
  have found : findEndpoints (v.relationship r) (v.node source) (v.node target) other after =
      findEndpoints r source target default strict := by
    rw [findEndpoints, findEndpoints, checkEndpoint_recast, checkEndpoint_recast, planned]
    simp only [nodePattern_recast alike]
  rw [relationshipBody, relationshipBody, found, v.relationship_type, v.relationship_element,
    v.element_identifying, bindings_recast alike, setClauses_recast alike]

/-- A recast element has the constraints that it had, or lacks members of its key as before. -/
theorem elementConstraints_recast (v : Recast) (e : Element) (file : Option String) :
    elementConstraints (v.element e file) = elementConstraints e := by
  have names : ∀ properties : List Property,
      (properties.map v.property).map Property.name = properties.map Property.name := by
    intro properties
    rw [List.map_map]
    exact List.map_congr_left fun p _ => v.name p
  have unique : (v.element e file).unique.map (fun p => Constraint.unique e.ref p.name) =
      e.unique.map fun p => Constraint.unique e.ref p.name := by
    rw [v.element_unique, List.map_map]
    exact List.map_congr_left fun p _ => congrArg (Constraint.unique e.ref) (v.name p)
  -- Of the members of a key only names and number matter.
  simp only [elementConstraints, v.element_ref, unique, v.element_key, List.isEmpty_map,
    keyConstraint, List.length_map, names]

/-- A recast model has the constraints that it had, or fails to have them for the same reason. -/
theorem constraintTexts_recast (m : Model) (v : Recast) :
    constraintTexts (m.recast v).elements = constraintTexts m.elements := by
  -- Constraints are derived element by element, and each element keeps its own.
  have derived : (m.recast v).elements.mapM elementConstraints =
      m.elements.mapM elementConstraints := by
    rw [m.elements_recast, Model.elements, List.mapM_append, List.mapM_append]
    simp only [List.mapM_map, Function.comp_def, elementConstraints_recast]
  rw [constraintTexts, constraintTexts, distinctConstraints, distinctConstraints, derived]

end Cypher

end GraphLoad
