import GraphLoad.Proofs.Cypher.Body
import GraphLoad.Proofs.Schema.Blocking
import GraphLoad.Proofs.Schema.Plan

/-! What the check guarantees about files: which columns of nodes and relationships it covers. -/

namespace GraphLoad

namespace SourceFiles

/-- A file is known and has all columns that are needed of it. -/
def Provides (files : SourceFiles) (name : String) (needed : List String) : Prop :=
  ∃ columns, files.columnsFor (some name) = some columns ∧ needed ⊆ columns

/-- A file has all columns that are needed of it, if it is known. -/
def Covers (files : SourceFiles) (name : String) (needed : List String) : Prop :=
  ∀ columns, files.columnsFor (some name) = some columns → needed ⊆ columns

variable {files : SourceFiles} {name : String}

/-- A file is known exactly when it has a list of columns. -/
theorem contains_iff : files.contains name = true ↔
    ∃ columns, files.columnsFor (some name) = some columns :=
  Option.isSome_iff_exists

/-- A file that is known and lacks nothing provides what is needed. -/
theorem provides_iff {needed : List String} :
    files.Provides name needed ↔ files.contains name = true ∧ files.Covers name needed := by
  -- A file has one list of columns, so there is one to look at exactly when it is known.
  rw [contains_iff]
  constructor
  · rintro ⟨columns, looked, within⟩
    refine ⟨⟨columns, looked⟩, fun others again => ?_⟩
    obtain rfl := Option.some.inj (looked.symm.trans again)
    exact within
  · rintro ⟨⟨columns, looked⟩, covered⟩
    exact ⟨columns, looked, covered columns looked⟩

/-- A file provides a single column when the column is among its columns. -/
theorem provides_singleton_iff {column : String} : files.Provides name [column] ↔
    ∃ columns, files.columnsFor (some name) = some columns ∧ column ∈ columns := by
  simp [Provides]

/-- The columns needed count as a set. -/
theorem provides_congr {needed others : List String}
    (same : ∀ column, column ∈ needed ↔ column ∈ others) :
    files.Provides name needed ↔ files.Provides name others := by
  simp only [Provides, List.subset_def, same]

/-- The columns needed count as a set. -/
theorem covers_congr {needed others : List String}
    (same : ∀ column, column ∈ needed ↔ column ∈ others) :
    files.Covers name needed ↔ files.Covers name others := by
  simp only [Covers, List.subset_def, same]

end SourceFiles

/-- A node that is readable at an end of a relationship is found by columns of the row file, if
the node's own file has its columns. -/
theorem EndReadable.columns_subset {files : SourceFiles} {plan : EndpointPlan}
    {checked columns : List String} {default : String} {e : Endpoint} {n : Node}
    (readable : EndReadable plan checked default e n) (within : checked ⊆ columns)
    (looked : files.columnsFor (some plan.rowFile) = some columns)
    (own : files.Covers (n.fileOr default) n.columnsRead) :
    n.identifying.map (plan.role e).column ⊆ columns := by
  intro column needed
  obtain ⟨p, identifying, rfl⟩ := List.mem_map.mp needed
  rcases readable with ⟨primary, sameFile⟩ | covered
  · -- The end was skipped, but then the node is read from the row file by its own columns.
    rw [primary]
    rw [sameFile] at own
    exact own columns looked (List.mem_map_of_mem (List.mem_of_mem_filter identifying))
  · exact within (covered p identifying)

/-- Between two labels a node is readable at an end if, where its file is not the row file, it is
found by aliases that are known. -/
theorem endReadable_of_alias {r : Relationship} {source target n : Node} {default : String}
    {columns : List String} {e : Endpoint} (labels : r.source ≠ r.target)
    (own : Relationship.endFile source target default e = n.fileOr default)
    (elsewhere : n.fileOr default ≠ (r.plan source target default).rowFile →
      ∀ p ∈ n.identifying, p.aliasOrColumn ∈ columns) :
    EndReadable (r.plan source target default) columns default e n := by
  have role := Relationship.plan_role_of_labels labels source target default e
  rw [own] at role
  -- Either the row file is the node's own, and its check is relied on, or the aliases are read.
  by_cases here : n.fileOr default = (r.plan source target default).rowFile
  · rw [if_pos here] at role
    exact .inl ⟨role, here⟩
  · rw [if_neg here] at role
    refine .inr fun p identifying => ?_
    rw [role]
    exact elsewhere here p identifying

namespace Model

variable {m : Model} {files : SourceFiles} {default : String}

/-- A node of a model is one of its elements. -/
theorem node_mem_elements {n : Node} (member : n ∈ m.nodes) : n.element ∈ m.elements :=
  List.mem_append_left _ (List.mem_map_of_mem member)

/-- A relationship of a model is one of its elements. -/
theorem relationship_mem_elements {r : Relationship} (member : r ∈ m.relationships) :
    r.element ∈ m.elements :=
  List.mem_append_right _ (List.mem_map_of_mem member)

/-- What holds of all elements holds of all nodes and of all relationships. -/
theorem forall_mem_elements_iff {P : Element → Prop} :
    (∀ e ∈ m.elements, P e) ↔
      (∀ n ∈ m.nodes, P n.element) ∧ ∀ r ∈ m.relationships, P r.element := by
  simp [elements, or_imp, forall_and]

/-- The file that a node declares has the columns of the node. -/
theorem ReadableFrom.covers_node (readable : m.ReadableFrom files default) {n : Node}
    (member : n ∈ m.nodes) (declared : n.sourceName.isSome = true) :
    files.Covers (n.fileOr default) n.columnsRead := by
  obtain ⟨name, named⟩ := Option.isSome_iff_exists.mp declared
  intro columns looked column needed
  -- The file read from is the file checked.
  have checked : files.columnsFor n.element.sourceName = some columns := by
    simpa [Node.element, Node.fileOr, named] using looked
  obtain ⟨p, own, rfl⟩ := List.mem_map.mp needed
  exact readable.columns n.element (node_mem_elements member) columns checked p own

/-- With all nodes declared, the files of all nodes have the columns of their nodes. -/
theorem ReadableFrom.covers_nodes (readable : m.ReadableFrom files default)
    (declared : ∀ n ∈ m.nodes, n.sourceName.isSome = true) :
    ∀ n ∈ m.nodes, files.Covers (n.fileOr default) n.columnsRead :=
  fun n member => readable.covers_node member (declared n member)

/-- The row file of a relationship has what its statement reads, if its properties and its ends
were checked against columns of that file, and the files of all nodes have their columns. -/
theorem ReadableFrom.covers_relationship (readable : m.ReadableFrom files default)
    (nodes : ∀ n ∈ m.nodes, files.Covers (n.fileOr default) n.columnsRead)
    {r : Relationship} (member : r ∈ m.relationships) {source target : Node}
    (atSource : m.node? r.source = some source) (atTarget : m.node? r.target = some target)
    {columns : List String}
    (looked : files.columnsFor (some (r.plan source target default).rowFile) = some columns)
    (properties : ∃ checked, files.columnsFor r.sourceName = some checked ∧ checked ⊆ columns)
    (rows : ∃ checked, rowColumns files (r.plan source target default) = some checked ∧
      checked ⊆ columns) :
    r.columnsRead (r.plan source target default) source target ⊆ columns := by
  have sourceOwn := nodes source (node?_eq_some atSource).1
  have targetOwn := nodes target (node?_eq_some atTarget).1
  obtain ⟨propertyColumns, propertiesLooked, propertiesWithin⟩ := properties
  obtain ⟨endColumns, rowsLooked, rowsWithin⟩ := rows
  obtain ⟨first, second⟩ :=
    readable.ends r member source target atSource atTarget endColumns rowsLooked
  have own : r.properties.map Property.column ⊆ columns := by
    intro column needed
    obtain ⟨p, owned, rfl⟩ := List.mem_map.mp needed
    exact propertiesWithin (readable.columns r.element (relationship_mem_elements member)
      propertyColumns propertiesLooked p owned)
  -- Three lists of columns are read, and each lies within the file.
  exact List.append_subset.mpr ⟨List.append_subset.mpr
    ⟨own, first.columns_subset rowsWithin looked sourceOwn⟩,
    second.columns_subset rowsWithin looked targetOwn⟩

/-- With a declared row file the check looks up nothing else. -/
theorem rowColumns_of_declared {r : Relationship} {name : String}
    (declared : r.sourceName = some name) (source target : Node) :
    rowColumns files (r.plan source target default) = files.columnsFor (some name) := by
  simp [rowColumns, EndpointPlan.isRowFileDeclared, Relationship.plan_origin,
    Relationship.plan_rowFile, Relationship.rowFile_of_declared declared]

/-- The file that a relationship declares has what its statement reads, if the files of all nodes
have theirs. -/
theorem ReadableFrom.covers_declared (readable : m.ReadableFrom files default)
    (nodes : ∀ n ∈ m.nodes, files.Covers (n.fileOr default) n.columnsRead)
    {r : Relationship} (member : r ∈ m.relationships) (declared : r.sourceName.isSome = true)
    {source target : Node}
    (atSource : m.node? r.source = some source) (atTarget : m.node? r.target = some target) :
    files.Covers (r.plan source target default).rowFile
      (r.columnsRead (r.plan source target default) source target) := by
  obtain ⟨name, named⟩ := Option.isSome_iff_exists.mp declared
  intro columns looked
  -- The properties and the ends are both checked against the declared file.
  have sameFile : files.columnsFor (some name) = some columns := by
    simpa [Relationship.plan_rowFile, Relationship.rowFile_of_declared named] using looked
  refine readable.covers_relationship nodes member atSource atTarget looked
    ⟨columns, ?_, List.Subset.refl columns⟩ ⟨columns, ?_, List.Subset.refl columns⟩
  · rw [named, sameFile]
  · rw [rowColumns_of_declared named, sameFile]

end Model

end GraphLoad
