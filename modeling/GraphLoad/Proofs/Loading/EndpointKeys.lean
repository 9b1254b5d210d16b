import GraphLoad.Proofs.Cypher.Unambiguous
import GraphLoad.Proofs.Loading.SelfRelationships

/-! The nodes of a relationship are found by just the keys that nodes of a kind are merged on. -/

namespace GraphLoad

open Cypher

/-- The property with the column that it is read from in a role in place of its own. -/
def Property.readIn (role : ColumnRole) (p : Property) : Property :=
  { p with column := role.column p }

/-- The node whose rows carry each property in the column of a role. -/
def Node.readIn (role : ColumnRole) (n : Node) : Node :=
  { n with properties := n.properties.map (Property.readIn role) }

/-- Nodes of a kind are merged by a pattern: it is what the first line of the work on a row says
behind the variable. -/
def Node.IsMergedBy (n : Node) (strict : Bool) (pattern : String) : Prop :=
  ∃ first rest, nodeBody n strict = .ok (first :: rest) ∧ first.text = "MERGE (n:" ++ pattern

/-- By its own columns a node is read as it stands. -/
theorem Node.readIn_primary (n : Node) : n.readIn .primary = n := by
  have same : Property.readIn .primary = id := rfl
  simp [readIn, same]

/-- The properties that identify a node do so whatever columns they are read from. -/
theorem Node.identifying_readIn (n : Node) (role : ColumnRole) :
    (n.readIn role).identifying = n.identifying.map (Property.readIn role) := by
  -- Only columns are changed, and the filter does not look at them.
  show (n.properties.map (Property.readIn role)).filter Property.isIdentifying = _
  rw [List.filter_map]
  rfl

namespace Cypher

/-- To read properties in a role is to read what they are in the role by its own columns. -/
theorem bindings_readIn (properties : List Property) (role : ColumnRole) (strict : Bool) :
    bindings (properties.map (Property.readIn role)) .primary strict =
      bindings properties role strict := by
  unfold bindings
  rw [List.map_map]
  rfl

/-- A pattern behind its variable: label, keys and values. -/
def NodePattern.behindVar (label : String) (keys : List Binding) : String :=
  quoteIdentifier label ++ " \x7b" ++ mapText keys ++ "\x7d)"

/-- The text of a pattern differs from variable to variable in the variable alone. -/
theorem NodePattern.text_eq (var label : String) (keys : List Binding) :
    NodePattern.text ⟨var, label, keys⟩ = "(" ++ var ++ ":" ++ behindVar label keys := by
  simp only [NodePattern.text, behindVar, String.append_assoc]

/-- The line that finds one node in a row. -/
theorem text_find_single (var label : String) (keys : List Binding) :
    (Clause.find [⟨var, label, keys⟩]).text =
      "MATCH (" ++ var ++ ":" ++ NodePattern.behindVar label keys := by
  have opening : "MATCH (" = "MATCH " ++ "(" := rfl
  rw [Clause.text_find, List.map_singleton, String.intercalate_singleton, NodePattern.text_eq,
    opening]
  simp only [String.append_assoc]

/-- The line that finds two nodes in a row. -/
theorem text_find_pair (var label other another : String) (keys others : List Binding) :
    (Clause.find [⟨var, label, keys⟩, ⟨other, another, others⟩]).text =
      "MATCH (" ++ var ++ ":" ++ NodePattern.behindVar label keys ++ (", (" ++ other ++ ":")
        ++ NodePattern.behindVar another others := by
  -- The brackets that open the two patterns are taken to the words in front of them.
  have opening : "MATCH (" = "MATCH " ++ "(" := rfl
  have between : ", (" = ", " ++ "(" := rfl
  rw [Clause.text_find, List.map_cons, List.map_singleton, String.intercalate_cons_cons,
    String.intercalate_singleton, NodePattern.text_eq, NodePattern.text_eq, opening, between]
  simp only [String.append_assoc]

end Cypher

/-- What the work on a row does once both nodes are found: a line that merges the relationship and,
where there are other properties, one that sets them. -/
def Relationship.mergeLines (r : Relationship) (strict : Bool) : List String :=
  (Clause.mergeRelationship r.type (bindings r.element.identifying .primary strict)).text
    :: (setClauses relationshipVar r.element strict).map Clause.text

/-- A node read in a role is merged by the pattern that finds it in the role. -/
theorem Node.isMergedBy_readIn {n : Node} (identified : n.identifying ≠ []) (role : ColumnRole)
    (strict : Bool) :
    (n.readIn role).IsMergedBy strict
      (NodePattern.behindVar n.label (bindings n.identifying role strict)) := by
  -- Read in the role, its own columns are those that find it there.
  have keys : bindings (n.readIn role).identifying .primary strict =
      bindings n.identifying role strict := by
    rw [identifying_readIn, bindings_readIn]
  have kept : (n.readIn role).identifying ≠ [] := by simpa [identifying_readIn] using identified
  refine ⟨_, _, nodeBody_eq kept strict, ?_⟩
  rw [keys, Clause.text_mergeNode, NodePattern.text_eq, ← String.append_assoc]
  rfl

namespace Relationship

variable {r : Relationship} {source target : Node} {default : String}

/-- One clause finds both nodes exactly if the rows of all three are in one file. -/
theorem plan_layout_eq_singleFile_iff :
    (r.plan source target default).layout = .singleFile ↔
      source.fileOr default = (r.plan source target default).rowFile ∧
        target.fileOr default = (r.plan source target default).rowFile := by
  unfold plan
  simp only [← plan_rowFile]
  -- The layout is the other one where either file is another one.
  by_cases first : source.fileOr default = (r.plan source target default).rowFile
  · by_cases second : target.fileOr default = (r.plan source target default).rowFile <;>
      simp [first, second]
  · simp [first]

/-- The source node is read by its own columns, unless its rows are elsewhere and the relationship
leads to another label. -/
theorem plan_sourceRole_of_own
    (own : source.fileOr default = (r.plan source target default).rowFile ∨ r.source = r.target) :
    (r.plan source target default).sourceRole = .primary := by
  by_cases labels : r.source = r.target
  · exact (plan_roles_of_self labels source target default).1
  · have role := plan_role_of_labels labels source target default .source
    rwa [endFile, if_pos (own.resolve_right labels)] at role

/-- The target node is read by its own columns, unless its rows are elsewhere or the relationship
leads back to its label. -/
theorem plan_targetRole_of_own
    (here : target.fileOr default = (r.plan source target default).rowFile)
    (labels : r.source ≠ r.target) : (r.plan source target default).targetRole = .primary := by
  have role := plan_role_of_labels labels source target default .target
  rwa [endFile, if_pos here] at role

end Relationship

namespace Compiler

/-- How the rows of a relationship lead to its nodes, under the compiler's options. -/
def planOf (c : Compiler) (r : Relationship) (source target : Node) : EndpointPlan :=
  r.plan source target c.options.sourceName

/-- The rows of a relationship and of both its nodes are in one file. -/
def InOneFile (c : Compiler) (r : Relationship) (source target : Node) : Prop :=
  c.nodeSource source = c.relationshipSource r source target ∧
    c.nodeSource target = c.relationshipSource r source target

/-- The lines of the work on a row of a relationship that finds its nodes by the patterns that nodes
of their kinds are merged by, each with the columns that the plan has them read from. -/
structure FindsAsMerged (c : Compiler) (r : Relationship) (source target : Node)
    (lines : List String) (first second : String) : Prop where
  /-- The first pattern is the source node's, read in its role. -/
  sourceMerged : (source.readIn (c.planOf r source target).sourceRole).IsMergedBy
    c.options.strictTyping first
  /-- The second pattern is the target node's, read in its role. -/
  targetMerged : (target.readIn (c.planOf r source target).targetRole).IsMergedBy
    c.options.strictTyping second
  /-- Within a file one line finds both nodes, and the line that merges follows. -/
  together : c.InOneFile r source target → lines =
    ("MATCH (source:" ++ first ++ ", (target:" ++ second) :: r.mergeLines c.options.strictTyping
  /-- Across files there is a line for each, and the line that merges follows. -/
  apart : ¬c.InOneFile r source target → lines =
    ("MATCH (source:" ++ first) :: ("MATCH (target:" ++ second)
      :: r.mergeLines c.options.strictTyping
  /-- The source node is read as it stands, unless its rows are elsewhere and the relationship leads
  to another label. -/
  ownSource : c.nodeSource source = c.relationshipSource r source target ∨ r.source = r.target →
    source.readIn (c.planOf r source target).sourceRole = source
  /-- The target node is read as it stands, unless its rows are elsewhere or the relationship leads
  back to its label. -/
  ownTarget : c.nodeSource target = c.relationshipSource r source target → r.source ≠ r.target →
    target.readIn (c.planOf r source target).targetRole = target

variable {c : Compiler}

/-- The work on a row of a relationship finds its nodes as they are merged. -/
theorem findsAsMerged_of_body {r : Relationship} {source target : Node} {body : List Clause}
    (written : relationshipBody r source target c.options.sourceName c.options.strictTyping =
      .ok body) :
    ∃ first second, c.FindsAsMerged r source target (body.map Clause.text) first second := by
  obtain ⟨_, _, sourceIdentified, targetIdentified, rfl⟩ := relationshipBody_eq_ok_iff.mp written
  refine ⟨_, _, Node.isMergedBy_readIn sourceIdentified _ _,
    Node.isMergedBy_readIn targetIdentified _ _, ?_, ?_, ?_, ?_⟩
  -- The layout spreads the two patterns over one line or two, and the roles say which columns they
  -- read.
  · intro one
    have layout := Relationship.plan_layout_eq_singleFile_iff.mpr one
    simp only [findClauses, layout, List.map_append, List.map_cons, List.map_nil, text_find_pair]
    rfl
  · intro several
    have layout : (r.plan source target c.options.sourceName).layout = .multiFile := by
      cases shared : (r.plan source target c.options.sourceName).layout with
      | singleFile => exact absurd (Relationship.plan_layout_eq_singleFile_iff.mp shared) several
      | multiFile => rfl
    simp only [findClauses, layout, List.map_append, List.map_cons, List.map_nil, text_find_single]
    rfl
  · intro own
    rw [planOf, Relationship.plan_sourceRole_of_own own, Node.readIn_primary]
  · intro here labels
    rw [planOf, Relationship.plan_targetRole_of_own here labels, Node.readIn_primary]

/-- Whenever a model is written, the nodes of each of its relationships have statements of their
own, and the statement of the relationship finds them by the patterns they are merged by. -/
theorem endpoints_found_as_merged {statements : List Statement}
    (written : c.unwindStatements = .ok statements) :
    ∀ r ∈ c.model.relationships, ∃ source target l first second,
      c.model.endpoints r = .ok (source, target) ∧
      (∀ n ∈ [source, target], ∃ own, c.nodeLoad n = .ok own ∧ own.unwind ∈ statements) ∧
      c.relationshipLoad r = .ok l ∧ l.unwind ∈ statements ∧
      c.FindsAsMerged r source target l.lines first second := by
  intro r member
  rw [unwindStatements_eq] at written
  obtain ⟨loads, built, rfl⟩ := map_eq_ok_iff.mp written
  obtain ⟨_, nodeLoads, relationshipLoads, nodes, relationships, rfl⟩ := loads_eq_ok_iff.mp built
  -- The statement of the relationship is written from its load.
  obtain ⟨l, present, loaded⟩ := exists_mem_of_mapM relationships member
  obtain ⟨source, target, body, resolved, work, rfl⟩ := relationshipLoad_eq_ok_iff.mp loaded
  obtain ⟨first, second, found⟩ := findsAsMerged_of_body work
  refine ⟨source, target, _, first, second, resolved, ?_, loaded,
    List.mem_map_of_mem (List.mem_append_right _ present), found⟩
  -- Both nodes are nodes of the model, so that each has a statement.
  obtain ⟨atSource, atTarget⟩ := Model.endpoints_eq_ok_iff.mp resolved
  intro n atEnd
  have declared : n ∈ c.model.nodes := by
    rcases List.mem_pair.mp atEnd with rfl | rfl
    · exact (Model.node?_eq_some atSource).1
    · exact (Model.node?_eq_some atTarget).1
  obtain ⟨own, there, ofNode⟩ := exists_mem_of_mapM nodes declared
  exact ⟨own, ofNode, List.mem_map_of_mem (List.mem_append_left _ there)⟩

/-- Dogs, their keepers and their litters: keepers are found across files by a column of their own,
and the mother of a dog in the rows of the litters. -/
def breeder : Compiler where
  model := {
    nodes := [
      { label := "Dog", sourceName := some "litters.csv",
        properties := [
          { name := "chip", column := "chip", aliasColumn := some "mother", isUnique := true },
          { name := "born", column := "born", valueType := .date }] },
      { label := "Keeper", sourceName := some "keepers.csv",
        properties := [
          { name := "number", column := "number", valueType := .integer,
            aliasColumn := some "keeper", isUnique := true }] }]
    relationships := [
      { type := "KEPT_BY", source := "Dog", target := "Keeper", sourceName := some "litters.csv" },
      { type := "PUP_OF", source := "Dog", target := "Dog" }] }
  options := { batchSize := 45 }
  valid := by decide

/-- Both relationships of the breeder find their nodes as these are merged. -/
theorem endpoints_found_as_merged_breeder :
    ∃ statements, breeder.unwindStatements = .ok statements ∧
      ∀ r ∈ breeder.model.relationships, ∃ source target l first second,
        breeder.model.endpoints r = .ok (source, target) ∧
        (∀ n ∈ [source, target], ∃ own, breeder.nodeLoad n = .ok own ∧ own.unwind ∈ statements) ∧
        breeder.relationshipLoad r = .ok l ∧ l.unwind ∈ statements ∧
        breeder.FindsAsMerged r source target l.lines first second := by
  obtain ⟨loads, emitted⟩ := emits_of_check (c := breeder) (by decide)
  exact ⟨_, emitted.unwound, endpoints_found_as_merged emitted.unwound⟩

end Compiler

end GraphLoad
