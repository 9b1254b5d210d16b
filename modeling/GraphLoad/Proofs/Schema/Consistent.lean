import GraphLoad.Proofs.Schema.Blocking
import GraphLoad.Proofs.Schema.Plan

/-! Consistent models: the invariants that span a model, and that the check without source files
finds a fault exactly where one of them is broken. -/

namespace GraphLoad

/-- The invariants of a model whose undeclared files are read from `default`. -/
structure Model.Consistent (m : Model) (default : String) : Prop where
  /-- No two nodes share a label. -/
  labels : m.nodeLabels.Nodup
  /-- Every node has a property that is unique or a member of its key. -/
  identified : ∀ n ∈ m.nodes, ∃ p ∈ n.properties, p.isUnique = true ∨ p.partOfKey = true
  /-- No two relationships share type, source and target. -/
  triples : (m.relationships.map fun r => (r.type, r.source, r.target)).Nodup
  /-- Every end of a relationship is the label of a node. -/
  declared : ∀ r ∈ m.relationships, ∀ e : Endpoint, r.label e ∈ m.nodeLabels
  /-- A relationship without a file joins nodes that are read from one file. -/
  rowFiles : ∀ r ∈ m.relationships, r.sourceName = none →
    ∀ source ∈ m.nodes, ∀ target ∈ m.nodes, source.label = r.source → target.label = r.target →
      source.fileOr default = target.fileOr default
  /-- No two properties of an element share a name. -/
  names : ∀ e ∈ m.elements, e.propertyNames.Nodup
  /-- No key has a single member. -/
  keys : ∀ e ∈ m.elements, e.properties.countP Property.partOfKey ≠ 1

namespace Element

/-- The check of the names is silent exactly on names that are distinct. -/
theorem checkNames_eq_nil_iff (e : Element) : e.checkNames = [] ↔ e.propertyNames.Nodup := by
  rw [checkNames, List.map_eq_nil_iff, repeats_eq_nil_iff]

/-- The check of the key is silent exactly on keys that do not have a single member. -/
theorem checkKey_eq_none_iff (e : Element) :
    e.checkKey = none ↔ e.properties.countP Property.partOfKey ≠ 1 := by
  -- The members of the key are counted, and only one member alone is reported.
  rw [List.countP_eq_length_filter]
  change e.checkKey = none ↔ e.key.length ≠ 1
  unfold checkKey
  match e.key with
  | [] => simp
  | [only] => simp
  | _ :: _ :: _ => simp

/-- Without source files the check of an element is silent exactly if names and key are sound. -/
theorem check_none_eq_nil_iff (e : Element) :
    e.check none = [] ↔
      e.propertyNames.Nodup ∧ e.properties.countP Property.partOfKey ≠ 1 := by
  rw [check, List.append_eq_nil_iff, e.checkNames_eq_nil_iff, Option.toList_eq_nil_iff,
    e.checkKey_eq_none_iff]

end Element

/-- A node is identified exactly if one of its properties is unique or a member of its key. -/
theorem Node.identifying_ne_nil_iff (n : Node) :
    n.identifying ≠ [] ↔ ∃ p ∈ n.properties, p.isUnique = true ∨ p.partOfKey = true := by
  simp only [identifying, ne_eq, List.filter_eq_nil_iff, Property.isIdentifying,
    Bool.or_eq_true, not_forall, Decidable.not_not, exists_prop]

namespace Model

variable {m : Model}

/-- The check of the ends is silent exactly if both of them are labels of nodes. -/
theorem checkEnds_eq_nil_iff (r : Relationship) :
    m.checkEnds r = [] ↔ ∀ e : Endpoint, r.label e ∈ m.nodeLabels := by
  -- An end is reported exactly if no node has its label.
  have reported : ∀ e : Endpoint,
      (if (m.node? (r.label e)).isSome then none else some (Fault.unknownEndpoint r.type e
        (r.label e))) = none ↔ r.label e ∈ m.nodeLabels := by
    intro e
    rw [← isSome_node?_iff]
    cases (m.node? (r.label e)).isSome <;> simp
  -- There are two ends, so a statement about all of them is one about each of the two.
  unfold checkEnds
  rw [List.filterMap_eq_nil_iff, List.forall_mem_cons, List.forall_mem_singleton, reported,
    reported]
  constructor
  · rintro ⟨source, target⟩ e
    cases e with
    | source => exact source
    | target => exact target
  · intro both
    exact ⟨both .source, both .target⟩

/-- Where labels are distinct, the check of the row file is silent exactly on relationships that
declare a file or join nodes of one file. -/
theorem checkRowFile_eq_nil_iff (distinct : m.nodeLabels.Nodup) (default : String)
    (r : Relationship) :
    m.checkRowFile default r = [] ↔ (r.sourceName = none →
      ∀ source ∈ m.nodes, ∀ target ∈ m.nodes, source.label = r.source → target.label = r.target →
        source.fileOr default = target.fileOr default) := by
  unfold checkRowFile
  constructor
  · intro silent undeclared source sourceMember target targetMember first second
    -- The two nodes are those the check looks at, since no others have their labels.
    have atSource := (node?_eq_some_iff distinct).mpr ⟨sourceMember, first⟩
    have atTarget := (node?_eq_some_iff distinct).mpr ⟨targetMember, second⟩
    simp only [undeclared, atSource, atTarget] at silent
    by_contra apart
    rw [if_neg apart] at silent
    cases silent
  · -- The nodes that the check looks at have these labels, so they share their file.
    intro shared
    split
    · rename_i source target undeclared atSource atTarget
      obtain ⟨sourceMember, first⟩ := node?_eq_some atSource
      obtain ⟨targetMember, second⟩ := node?_eq_some atTarget
      exact if_pos (shared undeclared source sourceMember target targetMember first second)
    · rfl

/-- The check of the structure is silent exactly if all invariants hold that concern several
elements, or nodes only. -/
theorem checkStructure_eq_nil_iff (default : String) :
    m.checkStructure default = [] ↔
      m.nodeLabels.Nodup ∧ (∀ n ∈ m.nodes, n.identifying ≠ []) ∧
        (m.relationships.map fun r => (r.type, r.source, r.target)).Nodup ∧
        ∀ r ∈ m.relationships, m.checkEnds r = [] ∧ m.checkRowFile default r = [] := by
  -- The reports of four rules stand one behind the other, and each of them has to be empty.
  unfold checkStructure
  simp only [List.append_eq_nil_iff, List.map_eq_nil_iff, repeats_eq_nil_iff,
    List.filter_eq_nil_iff, List.isEmpty_iff, List.flatMap_eq_nil_iff, and_assoc, ne_eq]

/-- Without source files a model has no fault exactly if it is consistent: the check misses no
broken invariant, and reports none that holds. -/
theorem faults_eq_nil_iff_consistent (m : Model) (default : String) :
    m.faults none default = [] ↔ m.Consistent default := by
  -- The check is silent if each of its parts is.
  simp only [faults, List.append_nil, List.append_eq_nil_iff, List.flatMap_eq_nil_iff,
    checkStructure_eq_nil_iff, checkEnds_eq_nil_iff, Element.check_none_eq_nil_iff,
    Node.identifying_ne_nil_iff]
  constructor
  · rintro ⟨⟨labels, identified, triples, ends⟩, elements⟩
    -- What the check of a row file looks up are the nodes meant, as labels are distinct.
    exact {
      labels, identified, triples
      declared := fun r member => (ends r member).1
      rowFiles := fun r member => (checkRowFile_eq_nil_iff labels default r).mp (ends r member).2
      names := fun e member => (elements e member).1
      keys := fun e member => (elements e member).2 }
  · intro sound
    have rowFiles : ∀ r ∈ m.relationships, m.checkRowFile default r = [] := fun r member =>
      (checkRowFile_eq_nil_iff sound.labels default r).mpr (sound.rowFiles r member)
    exact ⟨⟨sound.labels, sound.identified, sound.triples,
        fun r member => ⟨sound.declared r member, rowFiles r member⟩⟩,
      fun e member => ⟨sound.names e member, sound.keys e member⟩⟩

end Model

end GraphLoad
