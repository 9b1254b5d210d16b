import GraphLoad.Cypher.Clause
import GraphLoad.Proofs.Traversal

/-! When the work on a row can be written, and which columns of the row it reads. -/

namespace GraphLoad

/-- The columns that a row of a node has to have: one for each property. -/
def Node.columnsRead (n : Node) : List String :=
  n.properties.map Property.column

/-- The columns that a row of a relationship has to have: one for each property, and those that
its two nodes are found by. -/
def Relationship.columnsRead (r : Relationship) (plan : EndpointPlan) (source target : Node) :
    List String :=
  r.properties.map Property.column
    ++ source.identifying.map plan.sourceRole.column
    ++ target.identifying.map plan.targetRole.column

/-- In the primary role a property is read from its own column. -/
@[simp] theorem ColumnRole.primary_column : ColumnRole.primary.column = Property.column :=
  rfl

/-- A property is merged on or set afterwards, and never neither. -/
theorem Element.mem_identifying_or_descriptive {e : Element} {p : Property} :
    p ∈ e.identifying ∨ p ∈ e.descriptive ↔ p ∈ e.properties := by
  cases taken : p.isIdentifying <;> simp [identifying, descriptive, List.mem_filter, taken]

/-- Merging and setting together read the column of every property. -/
theorem Element.mem_columns_iff {e : Element} {column : String} :
    column ∈ e.identifying.map Property.column ∨ column ∈ e.descriptive.map Property.column ↔
      column ∈ e.properties.map Property.column := by
  simp only [List.mem_map, ← mem_identifying_or_descriptive (e := e), or_and_right, exists_or]

namespace Cypher

@[simp] theorem bodyColumns_nil : bodyColumns [] = [] :=
  rfl

@[simp] theorem bodyColumns_cons (clause : Clause) (body : List Clause) :
    bodyColumns (clause :: body) = clause.values.map RowValue.column ++ bodyColumns body :=
  List.flatMap_cons

@[simp] theorem bodyColumns_append (first second : List Clause) :
    bodyColumns (first ++ second) = bodyColumns first ++ bodyColumns second :=
  List.flatMap_append

/-- Bindings read each property from the column of its role, whether values are converted or not. -/
theorem bindings_columns (properties : List Property) (role : ColumnRole) (strict : Bool) :
    ((bindings properties role strict).map Binding.value).map RowValue.column =
      properties.map role.column := by
  simp [bindings, rowValue, Function.comp_def]

/-- Setting reads the columns of the descriptive properties, of which there may be none. -/
@[simp] theorem bodyColumns_setClauses (var : String) (e : Element) (strict : Bool) :
    bodyColumns (setClauses var e strict) = e.descriptive.map Property.column := by
  unfold setClauses
  split
  · -- Without such properties there is neither a clause nor a column.
    rename_i none_
    simp [List.isEmpty_iff.mp none_]
  · rw [bodyColumns_cons, bodyColumns_nil, List.append_nil]
    exact bindings_columns e.descriptive .primary strict

/-- A node that can be identified has a pattern. -/
theorem nodePattern_eq {n : Node} (identified : n.identifying ≠ []) (var : String)
    (role : ColumnRole) (strict : Bool) :
    nodePattern n var role strict = .ok ⟨var, n.label, bindings n.identifying role strict⟩ := by
  simp [nodePattern, identified]

/-- The work on a row of a node that can be identified. -/
theorem nodeBody_eq {n : Node} (identified : n.identifying ≠ []) (strict : Bool) :
    nodeBody n strict =
      .ok (.mergeNode ⟨nodeVar, n.label, bindings n.identifying .primary strict⟩
        :: setClauses nodeVar n.element strict) := by
  simp [nodeBody, nodePattern_eq identified, Bind.bind, Except.bind, Pure.pure, Except.pure]

/-- The clauses that find two nodes according to a plan. -/
def findClauses (plan : EndpointPlan) (source target : Node) (strict : Bool) : List Clause :=
  let first : NodePattern :=
    ⟨Endpoint.source.name, source.label, bindings source.identifying plan.sourceRole strict⟩
  let second : NodePattern :=
    ⟨Endpoint.target.name, target.label, bindings target.identifying plan.targetRole strict⟩
  match plan.layout with
  | .singleFile => [.find [first, second]]
  | .multiFile => [.find [first], .find [second]]

/-- Finding reads the same columns whether one clause finds both nodes or each has its own. -/
@[simp] theorem bodyColumns_findClauses (plan : EndpointPlan) (source target : Node)
    (strict : Bool) :
    bodyColumns (findClauses plan source target strict) =
      source.identifying.map plan.sourceRole.column
        ++ target.identifying.map plan.targetRole.column := by
  -- The layout decides how the two patterns are spread over clauses, not what they read.
  unfold findClauses
  cases plan.layout <;>
    simp only [bodyColumns_cons, bodyColumns_nil, Clause.values, List.flatMap_cons,
      List.flatMap_nil, List.append_nil, List.map_append, bindings_columns]

/-- A pattern is there only for a node that can be identified. -/
theorem nodePattern_eq_ok_iff {n : Node} {var : String} {role : ColumnRole} {strict : Bool}
    {pattern : NodePattern} :
    nodePattern n var role strict = .ok pattern ↔
      n.identifying ≠ [] ∧ pattern = ⟨var, n.label, bindings n.identifying role strict⟩ := by
  by_cases identified : n.identifying = []
  · simp [nodePattern, identified]
  · rw [nodePattern_eq identified, Except.ok.injEq]
    exact ⟨fun same => ⟨identified, same.symm⟩, fun ⟨_, same⟩ => same.symm⟩

/-- The work on a row of a node is there only if the node can be identified. -/
theorem nodeBody_eq_ok_iff {n : Node} {strict : Bool} {body : List Clause} :
    nodeBody n strict = .ok body ↔
      n.identifying ≠ [] ∧
        body = .mergeNode ⟨nodeVar, n.label, bindings n.identifying .primary strict⟩
          :: setClauses nodeVar n.element strict := by
  -- The pattern is the only step that may fail.
  simp only [nodeBody, bind_eq_ok_iff, nodePattern_eq_ok_iff, Pure.pure, Except.pure,
    Except.ok.injEq]
  constructor
  · rintro ⟨_, ⟨identified, rfl⟩, rfl⟩
    exact ⟨identified, rfl⟩
  · rintro ⟨identified, rfl⟩
    exact ⟨_, ⟨identified, rfl⟩, rfl⟩

/-- A node passes at an end exactly when it has the label the end names. -/
theorem checkEndpoint_eq_ok_iff {r : Relationship} {e : Endpoint} {n : Node} {done : Unit} :
    checkEndpoint r e n = .ok done ↔ n.label = r.label e := by
  by_cases named : n.label = r.label e <;> simp [checkEndpoint, named]

/-- Two nodes are found as the plan says, if they are those a relationship names and can be
identified. -/
theorem findEndpoints_eq_ok_iff {r : Relationship} {source target : Node} {default : String}
    {strict : Bool} {found : List Clause} :
    findEndpoints r source target default strict = .ok found ↔
      source.label = r.source ∧ target.label = r.target ∧
        source.identifying ≠ [] ∧ target.identifying ≠ [] ∧
        found = findClauses (r.plan source target default) source target strict := by
  -- Both checks come before both patterns, and any of the four may fail.
  simp only [findEndpoints, bind_eq_ok_iff, checkEndpoint_eq_ok_iff, nodePattern_eq_ok_iff,
    Relationship.label, Pure.pure, Except.pure, Except.ok.injEq]
  constructor
  · rintro ⟨_, first, _, second, _, ⟨sourceIdentified, rfl⟩, _, ⟨targetIdentified, rfl⟩, rfl⟩
    exact ⟨first, second, sourceIdentified, targetIdentified, rfl⟩
  · rintro ⟨first, second, sourceIdentified, targetIdentified, rfl⟩
    exact ⟨(), first, (), second, _, ⟨sourceIdentified, rfl⟩, _, ⟨targetIdentified, rfl⟩, rfl⟩

/-- The work on a row of a relationship is there only if its nodes are those it names and can be
identified. -/
theorem relationshipBody_eq_ok_iff {r : Relationship} {source target : Node} {default : String}
    {strict : Bool} {body : List Clause} :
    relationshipBody r source target default strict = .ok body ↔
      source.label = r.source ∧ target.label = r.target ∧
        source.identifying ≠ [] ∧ target.identifying ≠ [] ∧
        body = findClauses (r.plan source target default) source target strict
          ++ .mergeRelationship r.type (bindings r.element.identifying .primary strict)
            :: setClauses relationshipVar r.element strict := by
  -- Finding the two nodes is the only step that may fail.
  simp only [relationshipBody, bind_eq_ok_iff, findEndpoints_eq_ok_iff, Pure.pure, Except.pure,
    Except.ok.injEq]
  constructor
  · rintro ⟨_, ⟨first, second, sourceIdentified, targetIdentified, rfl⟩, rfl⟩
    exact ⟨first, second, sourceIdentified, targetIdentified, rfl⟩
  · rintro ⟨first, second, sourceIdentified, targetIdentified, rfl⟩
    exact ⟨_, ⟨first, second, sourceIdentified, targetIdentified, rfl⟩, rfl⟩

/-- The work on a row of a relationship whose nodes are those it names and can be identified. -/
theorem relationshipBody_eq {r : Relationship} {source target : Node}
    (first : source.label = r.source) (second : target.label = r.target)
    (sourceIdentified : source.identifying ≠ []) (targetIdentified : target.identifying ≠ [])
    (default : String) (strict : Bool) :
    relationshipBody r source target default strict =
      .ok (findClauses (r.plan source target default) source target strict
        ++ .mergeRelationship r.type (bindings r.element.identifying .primary strict)
          :: setClauses relationshipVar r.element strict) :=
  relationshipBody_eq_ok_iff.mpr ⟨first, second, sourceIdentified, targetIdentified, rfl⟩

/-- The work on a row of a node reads exactly the columns of its properties. -/
theorem mem_bodyColumns_nodeBody {n : Node} {strict : Bool} {body : List Clause}
    (identified : n.identifying ≠ []) (written : nodeBody n strict = .ok body)
    {column : String} : column ∈ bodyColumns body ↔ column ∈ n.columnsRead := by
  rw [nodeBody_eq identified] at written
  obtain rfl := Except.ok.inj written
  -- The merge reads the identifying properties, and the set clause the others.
  simp only [bodyColumns_cons, Clause.values, bindings_columns, ColumnRole.primary_column,
    bodyColumns_setClauses, List.mem_append]
  exact Element.mem_columns_iff (e := n.element)

/-- The work on a row of a relationship reads exactly the columns of its properties and those that
its nodes are found by. -/
theorem mem_bodyColumns_relationshipBody {r : Relationship} {source target : Node}
    {default : String} {strict : Bool} {body : List Clause}
    (first : source.label = r.source) (second : target.label = r.target)
    (sourceIdentified : source.identifying ≠ []) (targetIdentified : target.identifying ≠ [])
    (written : relationshipBody r source target default strict = .ok body) {column : String} :
    column ∈ bodyColumns body ↔
      column ∈ r.columnsRead (r.plan source target default) source target := by
  rw [relationshipBody_eq first second sourceIdentified targetIdentified] at written
  obtain rfl := Except.ok.inj written
  have own : column ∈ r.element.identifying.map Property.column ∨
      column ∈ r.element.descriptive.map Property.column ↔
        column ∈ r.properties.map Property.column := Element.mem_columns_iff
  simp only [bodyColumns_append, bodyColumns_cons, Clause.values, bindings_columns,
    ColumnRole.primary_column, bodyColumns_setClauses, bodyColumns_findClauses,
    Relationship.columnsRead, List.mem_append]
  -- The nodes are found first in the body and come last in the list of columns.
  rw [own, or_comm, or_assoc]

end Cypher

end GraphLoad
