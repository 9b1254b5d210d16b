import GraphLoad.Proofs.Loading.Loads
import GraphLoad.Proofs.Schema.Readable

/-! Where every source is declared, the check of the columns asks for what the statements read, no
more and no less. -/

namespace GraphLoad

namespace Model

variable {m : Model} {files : SourceFiles} {default : String}

/-- Files that pass the check of a fully declared model provide what each element reads. -/
theorem ReadableFrom.provides (readable : m.ReadableFrom files default)
    (declared : ∀ e ∈ m.elements, e.sourceName.isSome = true) :
    (∀ n ∈ m.nodes, files.Provides (n.fileOr default) n.columnsRead) ∧
      ∀ r ∈ m.relationships, ∀ source target,
        m.node? r.source = some source → m.node? r.target = some target →
        files.Provides (r.plan source target default).rowFile
          (r.columnsRead (r.plan source target default) source target) := by
  obtain ⟨nodesDeclared, relationshipsDeclared⟩ := forall_mem_elements_iff.mp declared
  have nodes := readable.covers_nodes nodesDeclared
  constructor
  -- What is left to see is that the files are known, which they are as they are declared.
  · intro n member
    refine SourceFiles.provides_iff.mpr ⟨?_, nodes n member⟩
    obtain ⟨name, named⟩ := Option.isSome_iff_exists.mp (nodesDeclared n member)
    have known := readable.known n.element (node_mem_elements member) name named
    simp only [Node.element] at named
    simpa [Node.fileOr, named] using known
  · intro r member source target atSource atTarget
    have isDeclared := relationshipsDeclared r member
    refine SourceFiles.provides_iff.mpr
      ⟨?_, readable.covers_declared nodes member isDeclared atSource atTarget⟩
    -- The row file is the one that the relationship declares.
    obtain ⟨name, named⟩ := Option.isSome_iff_exists.mp isDeclared
    rw [Relationship.plan_rowFile, Relationship.rowFile_of_declared named]
    exact readable.known r.element (relationship_mem_elements member) name named

/-- A declared file that provides what an element reads is known and has its columns. -/
theorem element_of_provides {e : Element} {name : String} (named : e.sourceName = some name)
    {needed : List String} (provided : files.Provides name needed)
    (within : e.properties.map Property.column ⊆ needed) :
    (∀ other, e.sourceName = some other → files.contains other = true) ∧
      ∀ columns, files.columnsFor e.sourceName = some columns →
        ∀ p ∈ e.properties, p.column ∈ columns := by
  -- An element declares one file only, so whatever is looked up is that file.
  obtain ⟨known, covered⟩ := SourceFiles.provides_iff.mp provided
  constructor
  · intro other same
    obtain rfl := Option.some.inj (named.symm.trans same)
    exact known
  · intro columns looked p own
    rw [named] at looked
    exact covered columns looked (within (List.mem_map_of_mem own))

/-- A declared file that provides what a relationship reads has the columns of both its ends. -/
theorem ends_of_provides {r : Relationship} (declared : r.sourceName.isSome = true)
    {source target : Node}
    (provided : files.Provides (r.plan source target default).rowFile
      (r.columnsRead (r.plan source target default) source target))
    {columns : List String}
    (looked : rowColumns files (r.plan source target default) = some columns) :
    EndReadable (r.plan source target default) columns default .source source ∧
      EndReadable (r.plan source target default) columns default .target target := by
  -- The columns looked up are those of the declared file, which has all that the statement reads.
  obtain ⟨name, named⟩ := Option.isSome_iff_exists.mp declared
  rw [rowColumns_of_declared named] at looked
  rw [Relationship.plan_rowFile, Relationship.rowFile_of_declared named] at provided
  have covered := (SourceFiles.provides_iff.mp provided).2 columns looked
  constructor
  · refine .inr fun p identifying => covered (List.mem_append_left _ (List.mem_append_right _ ?_))
    exact List.mem_map_of_mem identifying
  · refine .inr fun p identifying => covered (List.mem_append_right _ ?_)
    exact List.mem_map_of_mem identifying

/-- Files that provide what each element reads pass the check of a compilable model. -/
theorem readableFrom_of_provides (sound : m.Compilable)
    (declared : ∀ e ∈ m.elements, e.sourceName.isSome = true)
    (nodes : ∀ n ∈ m.nodes, files.Provides (n.fileOr default) n.columnsRead)
    (relationships : ∀ r ∈ m.relationships, ∀ source target,
      m.node? r.source = some source → m.node? r.target = some target →
      files.Provides (r.plan source target default).rowFile
        (r.columnsRead (r.plan source target default) source target)) :
    m.ReadableFrom files default := by
  obtain ⟨nodesDeclared, relationshipsDeclared⟩ := forall_mem_elements_iff.mp declared
  -- Each element reads its properties from the file it declares.
  have elements : ∀ e ∈ m.elements,
      (∀ other, e.sourceName = some other → files.contains other = true) ∧
        ∀ columns, files.columnsFor e.sourceName = some columns →
          ∀ p ∈ e.properties, p.column ∈ columns := by
    refine forall_mem_elements_iff.mpr ⟨fun n member => ?_, fun r member => ?_⟩
    · obtain ⟨name, named⟩ := Option.isSome_iff_exists.mp (nodesDeclared n member)
      have sameFile : n.fileOr default = name := Option.getD_eq_iff.mpr (.inl named)
      have own := nodes n member
      rw [sameFile] at own
      exact element_of_provides named own (List.Subset.refl _)
    · obtain ⟨source, atSource⟩ := sound.resolved r member .source
      obtain ⟨target, atTarget⟩ := sound.resolved r member .target
      obtain ⟨name, named⟩ := Option.isSome_iff_exists.mp (relationshipsDeclared r member)
      have rows := relationships r member source target atSource atTarget
      rw [Relationship.plan_rowFile, Relationship.rowFile_of_declared named] at rows
      -- Its own columns come first among those read from its rows.
      refine element_of_provides named rows fun column own => ?_
      exact List.mem_append_left _ (List.mem_append_left _ own)
  -- What is left are the ends, which are looked for in the row file.
  constructor
  · exact fun e member => (elements e member).1
  · exact fun e member => (elements e member).2
  · intro r member source target atSource atTarget columns looked
    have provided := relationships r member source target atSource atTarget
    exact ends_of_provides (relationshipsDeclared r member) provided looked

end Model

namespace Compiler

/-- The compiler with other knowledge of the source files. -/
def withFiles (c : Compiler) (files : Option SourceFiles) : Compiler :=
  { c with files }

/-- What the loads of a model read is provided exactly when it is for each node and for each
relationship. -/
theorem LoadsModel.provides_iff {c : Compiler} {loads : List Load} (loaded : c.LoadsModel loads)
    (files : SourceFiles) :
    (∀ l ∈ loads, files.Provides l.sourceName l.columns) ↔
      (∀ n ∈ c.model.nodes, files.Provides (c.nodeSource n) n.columnsRead) ∧
        ∀ r ∈ c.model.relationships, ∀ source target,
          c.model.node? r.source = some source → c.model.node? r.target = some target →
          files.Provides (c.relationshipSource r source target)
            (r.columnsRead (r.plan source target c.options.sourceName) source target) := by
  rw [← loaded.forall_node_iff (P := files.Provides) SourceFiles.provides_congr,
    ← loaded.forall_relationship_iff (P := files.Provides) SourceFiles.provides_congr]
  constructor
  · exact fun all => ⟨fun l member _ _ => all l member, fun l member _ _ => all l member⟩
  · rintro ⟨nodes, relationships⟩ l member
    -- Every load is that of a node or of a relationship.
    cases named : l.element with
    | node label => exact nodes l member label named
    | relationship type => exact relationships l member type named

/-- On given files a model passes exactly when it is compilable and can be read from them. -/
theorem check_withFiles_eq_ok_iff {c : Compiler} {files : SourceFiles} :
    (c.withFiles (some files)).check = .ok () ↔
      c.model.Compilable ∧ c.model.ReadableFrom files c.options.sourceName := by
  simp [check_eq_ok_iff, withFiles]

/-- With every source declared, a compilable model passes on given files exactly when they hold
each file that a statement reads and in it each column. -/
theorem check_withFiles_iff (c : Compiler) (files : SourceFiles)
    (declared : ∀ e ∈ c.model.elements, e.sourceName.isSome = true)
    (unblocked : Unblocked (c.model.faults none c.options.sourceName)) :
    ∃ loads, (c.withFiles none).Emits loads ∧
      ((c.withFiles (some files)).check = .ok () ↔
        ∀ l ∈ loads, files.Provides l.sourceName l.columns) := by
  have sound := (Model.unblocked_faults_none_iff c.model c.options.sourceName).mp unblocked
  have passed : (c.withFiles none).check = .ok () := check_eq_ok_iff.mpr ⟨sound, nofun⟩
  obtain ⟨loads, emitted⟩ := emits_of_check passed
  refine ⟨loads, emitted, ?_⟩
  rw [check_withFiles_eq_ok_iff]
  -- The check and the loads speak of one model, so only the files are in question.
  have asked := LoadsModel.provides_iff emitted.model files
  constructor
  · rintro ⟨_, readable⟩
    exact asked.mpr (readable.provides declared)
  · intro provided
    obtain ⟨nodes, relationships⟩ := asked.mp provided
    exact ⟨sound, Model.readableFrom_of_provides sound declared nodes relationships⟩

/-- People and their pets, each in a file of their own; who has which pet is in a third file that
names people by an alias. -/
def pets : Compiler where
  model := {
    nodes := [
      { label := "Person", sourceName := some "people.csv",
        properties := [
          { name := "name", column := "name", aliasColumn := some "owner", isUnique := true }] },
      { label := "Pet", sourceName := some "pets.csv",
        properties := [{ name := "id", column := "chip", isUnique := true }] }]
    relationships := [
      { type := "HAS_PET", source := "Person", target := "Pet", sourceName := some "owners.csv" }] }
  options := {}
  valid := by decide

/-- The files of people, of pets, and of who has which pet. -/
def petFiles : SourceFiles :=
  .ofList [("people.csv", ["name", "age"]), ("pets.csv", ["chip"]),
    ("owners.csv", ["owner", "chip"])]

/-- People and pets declare all their files and are compilable, so the check of their columns is
exact. -/
theorem check_withFiles_iff_pets :
    (∀ e ∈ pets.model.elements, e.sourceName.isSome = true) ∧
      Unblocked (pets.model.faults none pets.options.sourceName) ∧
      ∃ loads, (pets.withFiles none).Emits loads ∧
        ((pets.withFiles (some petFiles)).check = .ok () ↔
          ∀ l ∈ loads, petFiles.Provides l.sourceName l.columns) :=
  ⟨by decide, by decide, check_withFiles_iff pets petFiles (by decide) (by decide)⟩

/-- A column less, and the pets cannot be matched to people. -/
example : (pets.withFiles (some (petFiles.insert "owners.csv" ["name", "chip"]))).check =
    .error (.invalidModel [.missingEndpointColumn "HAS_PET" .source "Person" "name" "owner"
      "owners.csv"]) := by
  decide

end Compiler

end GraphLoad
