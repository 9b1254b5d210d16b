import GraphLoad.Proofs.Schema.Readable
import Mathlib.Data.Fintype.EquivFin

/-! Elements that declare no source: when the columns they are checked by are those of the file they
are read from. -/

namespace GraphLoad

namespace SourceFiles

/-- If a file is known, the columns that undeclared elements are checked by are known as well and
are all in it. -/
def UndeclaredWithin (files : SourceFiles) (name : String) : Prop :=
  ∀ columns, files.columnsFor (some name) = some columns →
    ∃ checked, files.columnsFor none = some checked ∧ checked ⊆ columns

/-- A known file lacks a column, and the check of undeclared elements accepts the column. -/
def Overlooks (files : SourceFiles) (name column : String) : Prop :=
  (∃ columns, files.columnsFor (some name) = some columns ∧ column ∉ columns) ∧
    ∀ checked, files.columnsFor none = some checked → column ∈ checked

variable {files : SourceFiles} {name : String}

/-- Undeclared elements are checked within a file exactly when no column it lacks is accepted. -/
theorem undeclaredWithin_iff_forall_not_overlooks :
    files.UndeclaredWithin name ↔ ∀ column, ¬ files.Overlooks name column := by
  constructor
  · rintro within column ⟨⟨columns, looked, missing⟩, accepted⟩
    obtain ⟨checked, known, included⟩ := within columns looked
    exact missing (included (accepted checked known))
  · intro none_ columns looked
    cases known : files.columnsFor none with
    | none =>
      -- Nothing is checked then, and some column is missing from any list.
      obtain ⟨column, fresh⟩ := Infinite.exists_notMem_finset columns.toFinset
      refine absurd ⟨⟨columns, looked, ?_⟩, ?_⟩ (none_ column)
      · rwa [List.mem_toFinset] at fresh
      · simp [known]
    | some checked =>
      refine ⟨checked, rfl, fun column accepted => ?_⟩
      -- A column that is checked but not in the file would be overlooked.
      by_contra missing
      refine none_ column ⟨⟨columns, looked, missing⟩, fun others again => ?_⟩
      obtain rfl := Option.some.inj (known.symm.trans again)
      exact accepted

end SourceFiles

namespace Model

variable {m : Model} {files : SourceFiles} {default : String}

/-- The default file has the columns of an undeclared node, if undeclared elements are checked
within it. -/
theorem ReadableFrom.covers_undeclared_node (readable : m.ReadableFrom files default)
    (within : files.UndeclaredWithin default) {n : Node} (member : n ∈ m.nodes)
    (undeclared : n.sourceName = none) : files.Covers (n.fileOr default) n.columnsRead := by
  intro columns looked column needed
  have sameFile : n.fileOr default = default := by simp [Node.fileOr, undeclared]
  rw [sameFile] at looked
  obtain ⟨checked, known, included⟩ := within columns looked
  obtain ⟨p, own, rfl⟩ := List.mem_map.mp needed
  -- The node was checked by columns that are all in the file.
  have accepted : files.columnsFor n.element.sourceName = some checked := by
    rw [← known]
    exact congrArg files.columnsFor undeclared
  exact included (readable.columns n.element (node_mem_elements member) checked accepted p own)

/-- A declared node that can be told apart is read from a file with some column. -/
theorem ReadableFrom.provides_column (readable : m.ReadableFrom files default) {n : Node}
    (member : n ∈ m.nodes) (identified : n.identifying ≠ [])
    (declared : n.sourceName.isSome = true) :
    ∃ column, files.Provides (n.fileOr default) [column] := by
  obtain ⟨p, identifying⟩ := List.exists_mem_of_ne_nil _ identified
  obtain ⟨name, named⟩ := Option.isSome_iff_exists.mp declared
  have sameFile : n.fileOr default = name := by simp [Node.fileOr, named]
  have known := readable.known n.element (node_mem_elements member) name named
  obtain ⟨columns, looked⟩ := SourceFiles.contains_iff.mp known
  have covered := readable.covers_node member declared
  rw [sameFile] at covered ⊢
  -- Any property that tells the node apart will do.
  refine ⟨p.column, SourceFiles.provides_singleton_iff.mpr ⟨columns, looked, ?_⟩⟩
  exact covered columns looked (List.mem_map_of_mem (List.mem_of_mem_filter identifying))

end Model

/-- Undeclared relationships between declared nodes are checked within their row files, whatever
files the nodes declare. -/
structure SourceFiles.RowFilesWithin (files : SourceFiles) (default : String) : Prop where
  /-- Two nodes may share any file that has a column. -/
  shared : ∀ name column, files.Provides name [column] → files.UndeclaredWithin name
  /-- With two such files the nodes may be apart, and then the rows are in the default file. -/
  apart : ∀ name other column another, name ≠ other → files.Provides name [column] →
    files.Provides other [another] → files.UndeclaredWithin default

namespace Model

variable {m : Model} {files : SourceFiles} {default : String}

/-- The check looks for the ends of an undeclared relationship in the file that both of its
declared nodes share. -/
theorem rowColumns_of_shared {r : Relationship} {source target : Node}
    (undeclared : r.sourceName = none) (declared : source.sourceName.isSome = true)
    (shared : source.fileOr default = target.fileOr default) :
    rowColumns files (r.plan source target default) =
      files.columnsFor (some (source.fileOr default)) := by
  simp [rowColumns, EndpointPlan.isRowFileDeclared, Relationship.plan_origin,
    Relationship.plan_rowFile, Relationship.rowFile_of_shared undeclared shared, declared]

/-- Between two files the check prefers the columns that undeclared elements are checked by. -/
theorem rowColumns_of_apart {r : Relationship} {source target : Node}
    (undeclared : r.sourceName = none)
    (apart : source.fileOr default ≠ target.fileOr default) :
    rowColumns files (r.plan source target default) =
      (files.columnsFor none <|> files.columnsFor (some default)) := by
  simp [rowColumns, EndpointPlan.isRowFileDeclared, Relationship.plan_origin,
    Relationship.plan_rowFile, Relationship.rowFile_of_apart undeclared apart]

/-- The row file of an undeclared relationship between declared nodes has what its statement reads,
if undeclared relationships are checked within their row files. -/
theorem ReadableFrom.covers_undeclared (readable : m.ReadableFrom files default)
    (within : files.RowFilesWithin default) (identified : ∀ n ∈ m.nodes, n.identifying ≠ [])
    (declared : ∀ n ∈ m.nodes, n.sourceName.isSome = true) {r : Relationship}
    (member : r ∈ m.relationships) (undeclared : r.sourceName = none) {source target : Node}
    (atSource : m.node? r.source = some source) (atTarget : m.node? r.target = some target) :
    files.Covers (r.plan source target default).rowFile
      (r.columnsRead (r.plan source target default) source target) := by
  have sourceMember := (node?_eq_some atSource).1
  have targetMember := (node?_eq_some atTarget).1
  have nodes := readable.covers_nodes declared
  -- The files of both nodes have columns, so the condition speaks of them.
  obtain ⟨column, first⟩ := readable.provides_column sourceMember (identified source sourceMember)
    (declared source sourceMember)
  obtain ⟨another, second⟩ := readable.provides_column targetMember (identified target targetMember)
    (declared target targetMember)
  intro columns looked
  rw [Relationship.plan_rowFile] at looked
  by_cases same : source.fileOr default = target.fileOr default
  · -- The ends are checked on the shared file, and the properties within it.
    rw [Relationship.rowFile_of_shared undeclared same] at looked
    obtain ⟨checked, known, included⟩ := within.shared _ column first columns looked
    refine readable.covers_relationship nodes member atSource atTarget ?_
      ⟨checked, ?_, included⟩ ⟨columns, ?_, List.Subset.refl columns⟩
    · rw [Relationship.plan_rowFile, Relationship.rowFile_of_shared undeclared same, looked]
    · rw [undeclared, known]
    · rw [rowColumns_of_shared undeclared (declared source sourceMember) same, looked]
  · -- Ends and properties are checked by the same columns, within the default file.
    rw [Relationship.rowFile_of_apart undeclared same] at looked
    obtain ⟨checked, known, included⟩ :=
      within.apart _ _ column another same first second columns looked
    refine readable.covers_relationship nodes member atSource atTarget ?_
      ⟨checked, ?_, included⟩ ⟨checked, ?_, included⟩
    · rw [Relationship.plan_rowFile, Relationship.rowFile_of_apart undeclared same, looked]
    · rw [undeclared, known]
    · rw [rowColumns_of_apart undeclared same, known]
      rfl

end Model

end GraphLoad
