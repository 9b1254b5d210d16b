import GraphLoad.Proofs.Loading.Loads

/-! Relationships between nodes of one kind: when the two nodes of a row are told apart. -/

namespace GraphLoad

open Cypher

namespace Cypher

/-- The node patterns that a clause finds nodes by. -/
def Clause.patterns : Clause → List NodePattern
  | find patterns => patterns
  | _ => []

/-- Two patterns differ if they read some key, at the same place in both, from two columns. -/
def NodePattern.Differs (first second : NodePattern) : Prop :=
  ∃ (place : Nat) (a b : Binding), first.keys[place]? = some a ∧ second.keys[place]? = some b ∧
    a.key = b.key ∧ a.value.column ≠ b.value.column

/-- Setting finds no nodes. -/
theorem patterns_setClauses (var : String) (e : Element) (strict : Bool) :
    (setClauses var e strict).flatMap Clause.patterns = [] := by
  -- There is a clause that sets, or none at all.
  unfold setClauses
  split <;> rfl

/-- Two nodes are found by their patterns, whether in one clause or in two. -/
theorem patterns_findClauses (plan : EndpointPlan) (source target : Node) (strict : Bool) :
    (findClauses plan source target strict).flatMap Clause.patterns = [
      ⟨Endpoint.source.name, source.label, bindings source.identifying plan.sourceRole strict⟩,
      ⟨Endpoint.target.name, target.label, bindings target.identifying plan.targetRole strict⟩
    ] := by
  -- The layout decides only how the patterns are spread over clauses.
  unfold findClauses
  cases plan.layout <;> rfl

/-- Bindings of the same properties in two roles differ in the columns of these roles alone. -/
theorem differs_bindings_iff {var other label another : String} {properties : List Property}
    {role second : ColumnRole} {strict : Bool} :
    NodePattern.Differs ⟨var, label, bindings properties role strict⟩
        ⟨other, another, bindings properties second strict⟩ ↔
      ∃ p ∈ properties, role.column p ≠ second.column p := by
  constructor
  · -- At one place stands one property, in the role of its pattern.
    rintro ⟨place, a, b, atFirst, atSecond, -, apart⟩
    simp only [bindings, List.getElem?_map, Option.map_eq_some_iff] at atFirst atSecond
    obtain ⟨p, there, rfl⟩ := atFirst
    obtain ⟨q, same, rfl⟩ := atSecond
    obtain rfl := Option.some.inj (there.symm.trans same)
    exact ⟨p, List.mem_of_getElem? there, apart⟩
  · rintro ⟨p, member, apart⟩
    obtain ⟨place, there⟩ := List.getElem?_of_mem member
    exact ⟨place, ⟨p.name, rowValue p role strict⟩, ⟨p.name, rowValue p second strict⟩,
      by simp [bindings, there], by simp [bindings, there], rfl, apart⟩

end Cypher

/-- A second column is of use only if it is another one than the property's own. -/
theorem Property.column_ne_aliasOrColumn_iff {p : Property} :
    p.column ≠ p.aliasOrColumn ↔ ∃ other, p.aliasColumn = some other ∧ other ≠ p.column := by
  -- Without an alias the second role falls back to the first.
  unfold aliasOrColumn
  cases p.aliasColumn with
  | none => simp
  | some other => simp [eq_comm]

/-- Whether a row can carry two nodes of this kind: some property that identifies them has a second
column. -/
def Node.HasSecondColumn (n : Node) : Prop :=
  ∃ p ∈ n.identifying, ∃ other, p.aliasColumn = some other ∧ other ≠ p.column

/-- Without a second column both roles read the same. -/
theorem Cypher.bindings_of_not_hasSecondColumn {n : Node} (strict : Bool)
    (single : ¬ n.HasSecondColumn) :
    bindings n.identifying .secondary strict = bindings n.identifying .primary strict := by
  -- A property with two columns would be the second column that there is none of.
  have one : ∀ p ∈ n.identifying, p.aliasOrColumn = p.column := by
    intro p member
    by_contra apart
    exact single ⟨p, member, Property.column_ne_aliasOrColumn_iff.mp (Ne.symm apart)⟩
  apply List.map_congr_left
  intro p member
  simp [rowValue, ColumnRole.column, one p member]

/-- A load of a relationship finds two nodes of one kind by the properties that identify it. -/
structure Load.FindsPair (l : Load) (n : Node) (first second : NodePattern) : Prop where
  /-- The load finds these nodes and no others. -/
  patterns : l.body.flatMap Clause.patterns = [first, second]
  /-- The first of them is where the relationship starts. -/
  source : first.var = Endpoint.source.name
  /-- The second of them is where it ends. -/
  target : second.var = Endpoint.target.name
  /-- Both are of the kind. -/
  labels : first.label = n.label ∧ second.label = n.label
  /-- Both are told from others by the same properties. -/
  keys : first.keys.map Binding.key = n.identifying.map Property.name ∧
    second.keys.map Binding.key = n.identifying.map Property.name

namespace Relationship

variable {r : Relationship}

/-- In whatever file the rows are, the first node of a self-relationship is read by own columns and
the second by alias columns. -/
theorem plan_roles_of_self (self : r.source = r.target) (source target : Node)
    (default : String) :
    (r.plan source target default).sourceRole = .primary ∧
      (r.plan source target default).targetRole = .secondary := by
  -- The plan looks at the labels first, and at the files only where these differ.
  have same : r.isSelfRelationship = true := beq_iff_eq.mpr self
  simp [plan, same]

/-- The patterns of a self-relationship. -/
theorem patterns_relationshipBody (self : r.source = r.target) {n : Node} {default : String}
    {strict : Bool} {body : List Clause}
    (written : relationshipBody r n n default strict = .ok body) :
    body.flatMap Clause.patterns =
      [⟨Endpoint.source.name, n.label, bindings n.identifying .primary strict⟩,
        ⟨Endpoint.target.name, n.label, bindings n.identifying .secondary strict⟩] := by
  obtain ⟨_, _, _, _, rfl⟩ := relationshipBody_eq_ok_iff.mp written
  obtain ⟨first, second⟩ := plan_roles_of_self self n n default
  -- Behind the clauses that find nodes, there is nothing that does.
  rw [List.flatMap_append, patterns_findClauses, List.flatMap_cons, patterns_setClauses, first,
    second]
  rfl

end Relationship

namespace Compiler

variable {c : Compiler}

/-- A model that passes has a load for each of its relationships, among all the loads. -/
theorem Emits.exists_relationshipLoad {loads : List Load} (emitted : c.Emits loads)
    {r : Relationship} (member : r ∈ c.model.relationships) :
    ∃ l ∈ loads, c.relationshipLoad r = .ok l := by
  obtain ⟨_, _, relationshipLoads, _, relationships, rfl⟩ := loads_eq_ok_iff.mp emitted.built
  obtain ⟨l, present, built⟩ := exists_mem_of_mapM relationships member
  exact ⟨l, List.mem_append_right _ present, built⟩

/-- Once a model passes, each self-relationship finds two nodes of one kind in a row. They are read
from different columns exactly if rows can carry two such nodes; otherwise every row leads from a
node to itself. -/
theorem ends_differ_iff (passed : c.check = .ok ()) :
    ∃ loads, c.Emits loads ∧
      ∀ r ∈ c.model.relationships, r.source = r.target →
        ∃ n first second, ∃ l ∈ loads, c.model.node? r.source = some n ∧
          c.relationshipLoad r = .ok l ∧ l.FindsPair n first second ∧
          (first.Differs second ↔ n.HasSecondColumn) ∧
          (¬ n.HasSecondColumn → second.keys = first.keys) := by
  obtain ⟨loads, emitted⟩ := emits_of_check passed
  refine ⟨loads, emitted, ?_⟩
  intro r member self
  obtain ⟨l, present, built⟩ := emitted.exists_relationshipLoad member
  obtain ⟨source, target, body, resolved, written, rfl⟩ := relationshipLoad_eq_ok_iff.mp built
  -- Both ends name one label, under which there is one node.
  obtain ⟨atSource, atTarget⟩ := Model.endpoints_eq_ok_iff.mp resolved
  rw [← self, atSource] at atTarget
  obtain rfl := Option.some.inj atTarget
  refine ⟨source, _, _, _, present, atSource, built,
    ⟨Relationship.patterns_relationshipBody self written, rfl, rfl, ⟨rfl, rfl⟩, ?_⟩, ?_, ?_⟩
  · simp [bindings, Function.comp_def]
  · rw [differs_bindings_iff]
    exact exists_congr fun p => and_congr_right fun _ => Property.column_ne_aliasOrColumn_iff
  · -- With one column for each property, the roles make no difference.
    exact bindings_of_not_hasSecondColumn _

/-- People with their managers, who are read from a column of their own. -/
def staff : Compiler where
  model := {
    nodes := [
      { label := "Person", sourceName := some "staff.csv",
        properties := [
          { name := "name", column := "name", aliasColumn := some "manager", isUnique := true }] }]
    relationships := [{ type := "REPORTS_TO", source := "Person", target := "Person" }] }
  options := { batchSize := 20 }
  files := some (.ofList [("staff.csv", ["name", "manager"])])
  valid := by decide

/-- A row of the staff carries a person and a manager, and tells the two apart. -/
theorem ends_differ_iff_staff :
    staff.check = .ok () ∧
      ∃ loads, staff.Emits loads ∧
        ∀ r ∈ staff.model.relationships, r.source = r.target →
          ∃ n first second, ∃ l ∈ loads, staff.model.node? r.source = some n ∧
            staff.relationshipLoad r = .ok l ∧ l.FindsPair n first second ∧
            (first.Differs second ↔ n.HasSecondColumn) ∧
            (¬ n.HasSecondColumn → second.keys = first.keys) :=
  ⟨by decide, ends_differ_iff (by decide)⟩

/-- People who know each other, with no column for the other one. -/
def neighbours : Compiler where
  model := {
    nodes := [
      { label := "Person", sourceName := some "people.csv",
        properties := [{ name := "name", column := "name", isUnique := true }] }]
    relationships := [{ type := "KNOWS", source := "Person", target := "Person" }] }
  options := { batchSize := 30 }
  files := some (.ofList [("people.csv", ["name"])])
  valid := by decide

/-- Nothing is said against the neighbours, and both ends of each of their rows are one person. -/
theorem neighbours_know_themselves :
    neighbours.check = .ok () ∧
      ∃ r ∈ neighbours.model.relationships, r.source = r.target ∧
        ∃ n first second l, neighbours.relationshipLoad r = .ok l ∧ l.FindsPair n first second ∧
          ¬ first.Differs second := by
  -- Both patterns ask for the one column that there is.
  let keys : List Binding := [⟨"name", ⟨"name", none⟩⟩]
  let first : NodePattern := ⟨"source", "Person", keys⟩
  let second : NodePattern := ⟨"target", "Person", keys⟩
  let body : List Clause := [.find [first, second], .mergeRelationship "KNOWS" []]
  refine ⟨by decide, _, List.mem_cons_self, rfl, neighbours.model.nodes.head (by decide), first,
    second, ⟨.relationship "KNOWS", "people.csv", body⟩, by decide, ?_, ?_⟩
  · constructor <;> decide
  · rintro ⟨place, a, b, atFirst, atSecond, -, apart⟩
    obtain rfl := Option.some.inj (atFirst.symm.trans atSecond)
    exact apart rfl

end Compiler

end GraphLoad
