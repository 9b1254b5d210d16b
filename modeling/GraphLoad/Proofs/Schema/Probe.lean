import GraphLoad.Proofs.Schema.Undeclared

/-! Small models with one undeclared element, which pass the check with any column that it accepts
of such elements. -/

namespace GraphLoad

/-- A node that is told apart by one column, or by another where its file is not read. -/
def Node.probe (label column elsewhere : String) (sourceName : Option String) : Node where
  label
  sourceName
  properties := [{ name := "key", column, aliasColumn := some elsewhere, isUnique := true }]

/-- Where its file is not read, a node that is probed with is found by the other column. -/
theorem aliasOrColumn_of_probe {label column elsewhere : String} {sourceName : Option String}
    {p : Property} (identifying : p ∈ (Node.probe label column elsewhere sourceName).identifying) :
    p.aliasOrColumn = elsewhere := by
  -- There is one property, and it is unique.
  simp only [Node.probe, Node.identifying, Property.isIdentifying, Bool.true_or,
    List.filter_cons_of_pos, List.filter_nil, List.mem_singleton] at identifying
  rw [identifying]
  rfl

/-- A model of one undeclared node, which reads one column. -/
def Model.nodeProbe (column : String) : Model where
  nodes := [.probe "Probe" column column none]

/-- A model of an undeclared relationship that reads one column, between two declared nodes that are
found by the same column where their files are not read. -/
def Model.relationshipProbe (name other first second column : String) : Model where
  nodes := [.probe "Source" first column (some name), .probe "Target" second column (some other)]
  relationships := [
    { type := "PROBES", source := "Source", target := "Target",
      properties := [{ name := "note", column }] }]

namespace Model

variable {files : SourceFiles} {default name other first second column : String}

/-- A node that is probed with can be compiled. -/
theorem compilable_nodeProbe : (nodeProbe column).Compilable := by
  constructor <;>
    simp [nodeProbe, Node.probe, nodeLabels, elements, Node.element, Element.key, Node.identifying,
      Property.isIdentifying]

/-- An undeclared node passes with a column that the check accepts. -/
theorem readableFrom_nodeProbe
    (accepted : ∀ checked, files.columnsFor none = some checked → column ∈ checked) :
    (nodeProbe column).ReadableFrom files default := by
  -- No file is declared and no relationship has ends, so only the column is looked up.
  constructor
  · simp [nodeProbe, Node.probe, elements, Node.element]
  · simpa [nodeProbe, Node.probe, elements, Node.element] using accepted
  · simp [nodeProbe]

/-- A relationship that is probed with starts at the first node. -/
theorem node?_relationshipProbe_source :
    (relationshipProbe name other first second column).node? "Source" =
      some (.probe "Source" first column (some name)) := by
  simp [node?, relationshipProbe, Node.probe]

/-- It ends at the second. -/
theorem node?_relationshipProbe_target :
    (relationshipProbe name other first second column).node? "Target" =
      some (.probe "Target" second column (some other)) := by
  simp [node?, relationshipProbe, Node.probe]

/-- A relationship that is probed with can be compiled. -/
theorem compilable_relationshipProbe :
    (relationshipProbe name other first second column).Compilable := by
  constructor
  · simp [relationshipProbe, Node.probe, nodeLabels]
  · simp [relationshipProbe, Node.probe, Node.identifying, Property.isIdentifying]
  · intro r member e
    obtain rfl := List.mem_singleton.mp member
    -- Each end carries the label of one of the two nodes.
    cases e
    · exact ⟨_, node?_relationshipProbe_source⟩
    · exact ⟨_, node?_relationshipProbe_target⟩
  · simp [relationshipProbe, Node.probe, elements, Node.element, Relationship.element, Element.key]

/-- An undeclared relationship passes with a column that the check accepts, if its declared nodes
share their file or the check has columns to look for them in. -/
theorem readableFrom_relationshipProbe (source : files.Provides name [first])
    (target : files.Provides other [second])
    (accepted : ∀ checked, files.columnsFor none = some checked → column ∈ checked)
    (findable : name = other ∨ ∃ checked, files.columnsFor none = some checked) :
    (relationshipProbe name other first second column).ReadableFrom files default := by
  obtain ⟨sourceColumns, atName, hasFirst⟩ := SourceFiles.provides_singleton_iff.mp source
  obtain ⟨targetColumns, atOther, hasSecond⟩ := SourceFiles.provides_singleton_iff.mp target
  constructor
  · simp [relationshipProbe, Node.probe, elements, Node.element, Relationship.element,
      SourceFiles.contains_iff, atName, atOther]
  · simpa [relationshipProbe, Node.probe, elements, Node.element, Relationship.element, atName,
      atOther, hasFirst, hasSecond] using accepted
  · intro r member source target atSource atTarget columns looked
    obtain rfl := List.mem_singleton.mp member
    obtain rfl := Option.some.inj (node?_relationshipProbe_source.symm.trans atSource)
    obtain rfl := Option.some.inj (node?_relationshipProbe_target.symm.trans atTarget)
    -- Nodes from two files are looked for by the columns that undeclared elements are checked by.
    have known : name ≠ other → column ∈ columns := by
      intro apart
      obtain ⟨checked, known⟩ := findable.resolve_left apart
      rw [rowColumns_of_apart (by rfl) (by exact apart), known] at looked
      obtain rfl := Option.some.inj looked
      exact accepted checked known
    refine ⟨endReadable_of_alias (by simp) rfl fun away p identifying => ?_,
      endReadable_of_alias (by simp) rfl fun away p identifying => ?_⟩
    -- Nodes that share their file are read from it by their own columns.
    · rw [aliasOrColumn_of_probe identifying]
      refine known fun same => away ?_
      rw [Relationship.plan_rowFile, Relationship.rowFile_of_shared (by rfl) (by exact same)]
    · rw [aliasOrColumn_of_probe identifying]
      refine known fun same => away ?_
      rw [Relationship.plan_rowFile, Relationship.rowFile_of_shared (by rfl) (by exact same)]
      exact same.symm

end Model

end GraphLoad
