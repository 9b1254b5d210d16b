import GraphLoad.Proofs.Loading.ColumnCheck
import GraphLoad.Proofs.Schema.Probe

/-! Where sources are left undeclared, the check covers the statements of all models only on some
files, and these are characterized exactly. -/

namespace GraphLoad

namespace Compiler

/-- The compiler with another model. -/
def withModel (c : Compiler) (model : Model) : Compiler :=
  { c with model }

/-- Behind the check every element has its statements, and those of one kind of element read only
columns that their files have, as far as the files are known. -/
def ChecksReads (c : Compiler) (files : SourceFiles) (kind : String → ElementRef) : Prop :=
  (c.withFiles (some files)).check = .ok () →
    ∃ loads, (c.withFiles (some files)).Emits loads ∧
      ∀ l ∈ loads, ∀ name, l.element = kind name → files.Covers l.sourceName l.columns

variable {c : Compiler} {files : SourceFiles}

/-- Whether reads are checked can be asked of the elements in place of their loads. -/
theorem checksReads_iff {kind : String → ElementRef} {covers : Prop}
    (same : ∀ loads, (c.withFiles (some files)).LoadsModel loads →
      ((∀ l ∈ loads, ∀ name, l.element = kind name → files.Covers l.sourceName l.columns) ↔
        covers)) :
    c.ChecksReads files kind ↔
      (c.model.Compilable → c.model.ReadableFrom files c.options.sourceName → covers) := by
  -- What the check guarantees of a model does not depend on the loads, which exist behind it.
  constructor
  · intro checks sound readable
    obtain ⟨loads, emitted, covered⟩ := checks (check_withFiles_eq_ok_iff.mpr ⟨sound, readable⟩)
    exact (same loads emitted.model).mp covered
  · intro covered passed
    obtain ⟨sound, readable⟩ := check_withFiles_eq_ok_iff.mp passed
    obtain ⟨loads, emitted⟩ := emits_of_check passed
    exact ⟨loads, emitted, (same loads emitted.model).mpr (covered sound readable)⟩

/-- The reads of nodes are checked when the files of nodes have their columns. -/
theorem checksReads_node_iff : c.ChecksReads files .node ↔
    (c.model.Compilable → c.model.ReadableFrom files c.options.sourceName →
      ∀ n ∈ c.model.nodes, files.Covers (n.fileOr c.options.sourceName) n.columnsRead) :=
  checksReads_iff fun _ loaded =>
    loaded.forall_node_iff (P := files.Covers) SourceFiles.covers_congr

/-- The reads of relationships are checked when their row files have the columns asked for. -/
theorem checksReads_relationship_iff : c.ChecksReads files .relationship ↔
    (c.model.Compilable → c.model.ReadableFrom files c.options.sourceName →
      ∀ r ∈ c.model.relationships, ∀ source target,
        c.model.node? r.source = some source → c.model.node? r.target = some target →
        files.Covers (r.plan source target c.options.sourceName).rowFile
          (r.columnsRead (r.plan source target c.options.sourceName) source target)) :=
  checksReads_iff fun _ loaded =>
    loaded.forall_relationship_iff (P := files.Covers) SourceFiles.covers_congr

/-- With all nodes declared, the reads of nodes are checked on any files. -/
theorem checksReads_node_of_declared
    (declared : ∀ n ∈ c.model.nodes, n.sourceName.isSome = true) : c.ChecksReads files .node := by
  -- A declared file is both the one looked up and the one read from.
  rw [checksReads_node_iff]
  exact fun _ readable => readable.covers_nodes declared

/-- The reads of nodes are checked if undeclared elements are checked within the default file. -/
theorem checksReads_node_of_undeclaredWithin
    (within : files.UndeclaredWithin c.options.sourceName) : c.ChecksReads files .node := by
  rw [checksReads_node_iff]
  intro _ readable n member
  -- Only a node that leaves its file open needs the condition.
  cases undeclared : n.sourceName with
  | none => exact readable.covers_undeclared_node within member undeclared
  | some name => exact readable.covers_node member (by simp [undeclared])

/-- Where the reads of nodes are checked for every model, undeclared elements are checked within the
default file. -/
theorem undeclaredWithin_of_checksReads (checks : ∀ m, (c.withModel m).ChecksReads files .node) :
    files.UndeclaredWithin c.options.sourceName := by
  rw [SourceFiles.undeclaredWithin_iff_forall_not_overlooks]
  rintro column ⟨⟨columns, looked, missing⟩, accepted⟩
  -- A column that the check overlooks can be read by an undeclared node.
  have covered := checksReads_node_iff.mp (checks (.nodeProbe column)) Model.compilable_nodeProbe
    (Model.readableFrom_nodeProbe accepted)
  refine missing (covered _ List.mem_cons_self columns looked ?_)
  simp [Node.columnsRead, Node.probe]

/-- With all nodes declared, the reads of nodes are checked on any files. With undeclared nodes they
are checked exactly on files where undeclared elements are checked within the default file. -/
theorem checksReads_node_iff_undeclaredWithin (c : Compiler) (files : SourceFiles) :
    (∀ m : Model, (∀ n ∈ m.nodes, n.sourceName.isSome = true) →
        (c.withModel m).ChecksReads files .node) ∧
      ((∀ m, (c.withModel m).ChecksReads files .node) ↔
        files.UndeclaredWithin c.options.sourceName) := by
  -- The condition is about files and options alone, which the models share.
  refine ⟨fun m declared => checksReads_node_of_declared declared,
    fun checks => undeclaredWithin_of_checksReads checks, fun within m => ?_⟩
  exact checksReads_node_of_undeclaredWithin within

/-- People who declare no source, read from a file of people by default. -/
def people : Compiler where
  model := {
    nodes := [
      { label := "Person",
        properties := [{ name := "email", column := "email", isUnique := true }] }] }
  options := { sourceName := "people.csv" }
  valid := by decide

/-- With several files known, nothing is checked of people, and they are read by a column that their
file lacks. -/
theorem people_unchecked :
    (people.withFiles (some petFiles)).check = .ok () ∧
      (people.withFiles (some petFiles)).loads.map (List.map fun l => (l.sourceName, l.columns)) =
        .ok [("people.csv", ["email"])] ∧
      petFiles.columnsFor (some "people.csv") = some ["name", "age"] ∧
      ¬ people.ChecksReads petFiles .node := by
  refine ⟨by decide, by decide, by decide, fun checks => ?_⟩
  obtain ⟨loads, emitted, covered⟩ := checks (by decide)
  -- The node itself would have to read within its file.
  have nodes := (emitted.model.forall_node_iff (P := petFiles.Covers)
    SourceFiles.covers_congr).mp covered
  have within := nodes _ List.mem_cons_self ["name", "age"] (by decide)
  exact absurd within (by decide)

/-- With all sources declared, the reads of relationships are checked on any files. -/
theorem checksReads_relationship_of_declared
    (declared : ∀ e ∈ c.model.elements, e.sourceName.isSome = true) :
    c.ChecksReads files .relationship := by
  obtain ⟨nodesDeclared, relationshipsDeclared⟩ := Model.forall_mem_elements_iff.mp declared
  rw [checksReads_relationship_iff]
  intro _ readable r member source target atSource atTarget
  -- The nodes come first, since an end can be left to the check of its node.
  have nodes := readable.covers_nodes nodesDeclared
  exact readable.covers_declared nodes member (relationshipsDeclared r member) atSource atTarget

/-- Between declared nodes the reads of relationships are checked if undeclared relationships are
checked within their row files. -/
theorem checksReads_relationship_of_rowFilesWithin
    (within : files.RowFilesWithin c.options.sourceName)
    (declared : ∀ n ∈ c.model.nodes, n.sourceName.isSome = true) :
    c.ChecksReads files .relationship := by
  rw [checksReads_relationship_iff]
  intro sound readable r member source target atSource atTarget
  cases undeclared : r.sourceName with
  | none =>
    exact readable.covers_undeclared within sound.identified declared member undeclared atSource
      atTarget
  | some name =>
    -- Nothing is left open then, so the files need no condition.
    have nodes := readable.covers_nodes declared
    exact readable.covers_declared nodes member (by simp [undeclared]) atSource atTarget

/-- Where the reads of relationships are checked, the check overlooks no column of a row file. -/
theorem not_overlooks_of_checksReads {name other first second column : String}
    (checks : (c.withModel (.relationshipProbe name other first second column)).ChecksReads files
      .relationship)
    (source : files.Provides name [first]) (target : files.Provides other [second])
    (findable : name = other ∨ ∃ checked, files.columnsFor none = some checked) :
    ¬ files.Overlooks (if name = other then name else c.options.sourceName) column := by
  rintro ⟨⟨columns, looked, missing⟩, accepted⟩
  -- A relationship that reads the column passes all the same.
  have covered := checksReads_relationship_iff.mp checks Model.compilable_relationshipProbe
    (Model.readableFrom_relationshipProbe source target accepted findable) _ List.mem_cons_self _ _
    Model.node?_relationshipProbe_source Model.node?_relationshipProbe_target
  refine missing (covered columns ?_ ?_)
  · rw [← looked, Relationship.plan_rowFile]
    -- The row file is the shared one, or else the default.
    split
    · rename_i same
      rw [Relationship.rowFile_of_shared (by rfl) (by exact same)]
      rfl
    · rename_i apart
      rw [Relationship.rowFile_of_apart (by rfl) (by exact apart)]
      rfl
  · simp [Relationship.columnsRead]

/-- Where the reads of relationships between declared nodes are checked for every model, undeclared
relationships are checked within their row files. -/
theorem rowFilesWithin_of_checksReads
    (checks : ∀ m : Model, (∀ n ∈ m.nodes, n.sourceName.isSome = true) →
      (c.withModel m).ChecksReads files .relationship) :
    files.RowFilesWithin c.options.sourceName := by
  -- Both nodes of a probe are declared, so the reads of its relationship are checked.
  have probed := fun name other first second column =>
    checks (.relationshipProbe name other first second column)
      (by simp [Model.relationshipProbe, Node.probe])
  have shared : ∀ name column, files.Provides name [column] → files.UndeclaredWithin name := by
    intro name column provided
    rw [SourceFiles.undeclaredWithin_iff_forall_not_overlooks]
    intro another
    have kept := not_overlooks_of_checksReads (probed name name column column another) provided
      provided (.inl rfl)
    simpa using kept
  refine ⟨shared, fun name other column another apart first second => ?_⟩
  -- A file that can be shared shows that there are columns to check undeclared elements by.
  obtain ⟨columns, looked, _⟩ := SourceFiles.provides_singleton_iff.mp first
  obtain ⟨checked, known, _⟩ := shared name column first columns looked
  rw [SourceFiles.undeclaredWithin_iff_forall_not_overlooks]
  intro missing
  have kept := not_overlooks_of_checksReads (probed name other column another missing) first second
    (.inr ⟨checked, known⟩)
  simpa [apart] using kept

/-- With all sources declared, the reads of relationships are checked on any files. With undeclared
relationships between declared nodes they are checked exactly on files where undeclared
relationships are checked within their row files. -/
theorem checksReads_relationship_iff_rowFilesWithin (c : Compiler) (files : SourceFiles) :
    (∀ m : Model, (∀ e ∈ m.elements, e.sourceName.isSome = true) →
        (c.withModel m).ChecksReads files .relationship) ∧
      ((∀ m : Model, (∀ n ∈ m.nodes, n.sourceName.isSome = true) →
          (c.withModel m).ChecksReads files .relationship) ↔
        files.RowFilesWithin c.options.sourceName) := by
  -- The condition is about files and options alone, which the models share.
  refine ⟨fun m declared => checksReads_relationship_of_declared declared,
    fun checks => rowFilesWithin_of_checksReads checks, fun within m declared => ?_⟩
  exact checksReads_relationship_of_rowFilesWithin within declared

/-- Owners and pets from one file, which their relationship inherits. -/
def owners : Compiler where
  model := {
    nodes := [
      { label := "Owner", sourceName := some "owners.csv",
        properties := [{ name := "name", column := "owner", isUnique := true }] },
      { label := "Pet", sourceName := some "owners.csv",
        properties := [{ name := "id", column := "chip", isUnique := true }] }]
    relationships := [
      { type := "HAS_PET", source := "Owner", target := "Pet",
        properties := [{ name := "since", column := "since" }] }] }
  options := {}
  valid := pets.valid

/-- With several files known, nothing is checked of the properties of the relationship, and one is
read from a column that the inherited file lacks. -/
theorem owners_unchecked :
    (owners.withFiles (some petFiles)).check = .ok () ∧
      (owners.withFiles (some petFiles)).loads.map (List.map fun l => (l.sourceName, l.columns)) =
        .ok [("owners.csv", ["owner"]), ("owners.csv", ["chip"]),
          ("owners.csv", ["owner", "chip", "since"])] ∧
      petFiles.columnsFor (some "owners.csv") = some ["owner", "chip"] ∧
      ¬ owners.ChecksReads petFiles .relationship := by
  refine ⟨by decide, by decide, by decide, fun checks => ?_⟩
  obtain ⟨loads, emitted, covered⟩ := checks (by decide)
  -- The relationship itself would have to read within the file that it inherits.
  have relationships := (emitted.model.forall_relationship_iff (P := petFiles.Covers)
    SourceFiles.covers_congr).mp covered
  have within := relationships _ List.mem_cons_self _ _ (by rfl) (by rfl) ["owner", "chip"]
    (by decide)
  exact absurd within (by decide)

end Compiler

end GraphLoad
