import GraphLoad.Proofs.Schema.Readable
import GraphLoad.Proofs.Text.ByteOrder
import GraphLoad.Proofs.Text.NameMap
import GraphLoad.Schema.SourceFiles

/-! Source files put together step by step: of each file, the columns written last are known. -/

namespace GraphLoad

/-- A step that says what source files hold. -/
inductive FileStep where
  /-- Sets the columns of a file in place. -/
  | insert (name : String) (columns : List String)
  /-- Sets the columns of a file and hands all files on. -/
  | withFile (name : String) (columns : List String)
  /-- Starts anew with the columns of one file, which stays implicit. -/
  | single (columns : List String)
  /-- Starts anew with a list of files. -/
  | collect (pairs : List (String × List String))
deriving DecidableEq, Repr

namespace FileStep

/-- What is known of the files once a step is taken. -/
def take (files : SourceFiles) : FileStep → SourceFiles
  | insert name columns | withFile name columns => files.insert name columns
  | single columns => .single columns
  | collect pairs => .ofList pairs

/-- Whether a step forgets all that was known. -/
def startsAnew : FileStep → Bool
  | insert .. | withFile .. => false
  | single _ | collect _ => true

/-- The columns that a step sets, each under its file, in the order they are set. -/
def writes : FileStep → List (String × List String)
  | insert name columns | withFile name columns => [(name, columns)]
  | single columns => [(implicitSource, columns)]
  | collect pairs => pairs

end FileStep

/-- What is known once some steps are taken in turn, when nothing was known before. -/
def SourceFiles.ofSteps (steps : List FileStep) : SourceFiles :=
  steps.foldl FileStep.take {}

/-- Columns are the last that some steps wrote for a file: no later step wrote others for it or
started anew, and within its step no later pair is about the file. -/
def LastWritten (steps : List FileStep) (name : String) (columns : List String) : Prop :=
  ∃ before step after, steps = before ++ step :: after ∧ LastFor step.writes name columns ∧
    ∀ later ∈ after, later.startsAnew = false ∧ ∀ write ∈ later.writes, write.1 ≠ name

/-- What files answer that hold what some steps wrote last. -/
structure SourceFiles.HoldsLast (files : SourceFiles) (steps : List FileStep) : Prop where
  /-- A file has the columns that were last written for it. -/
  columns : ∀ name columns, files.columnsFor (some name) = some columns ↔
    LastWritten steps name columns
  /-- A file that nothing was written for has none. -/
  missing : ∀ name, files.columnsFor (some name) = none ↔ ¬∃ columns, LastWritten steps name columns
  /-- Those files are known that something was written for. -/
  known : ∀ name, files.contains name = true ↔ ∃ columns, LastWritten steps name columns
  /-- Just these are named. -/
  listed : ∀ name, name ∈ files.names ↔ ∃ columns, LastWritten steps name columns
  /-- They are named once each, in the order of their bytes. -/
  increasing : files.names.Pairwise PrecedesInUtf8
  /-- If there is only one file, it is read where none is declared. -/
  only : ∀ name, files.names = [name] → files.columnsFor none = files.columnsFor (some name)
  /-- Otherwise the implicit file is, as far as it is known. -/
  several : files.names.length ≠ 1 → files.columnsFor none = files.columnsFor (some implicitSource)

variable {steps : List FileStep} {step : FileStep} {name : String} {columns : List String}

/-- Behind one more step, the last columns are those it wrote, or else those from before, unless it
started anew. -/
theorem lastWritten_append_singleton :
    LastWritten (steps ++ [step]) name columns ↔
      LastFor step.writes name columns ∨
        (∀ write ∈ step.writes, write.1 ≠ name) ∧ step.startsAnew = false ∧
          LastWritten steps name columns := by
  constructor
  · rintro ⟨before, writer, after, split, wrote, kept⟩
    rcases append_singleton_eq_split_iff.mp split with ⟨-, rfl, -⟩ | ⟨behind, rfl, whole⟩
    · exact .inl wrote
    · -- The new step comes behind the one that wrote, so it left the file alone.
      obtain ⟨goesOn, others⟩ := kept step (by simp)
      exact .inr ⟨others, goesOn, before, writer, behind, whole, wrote,
        fun later member => kept later (List.mem_append_left _ member)⟩
  · rintro (wrote | ⟨others, goesOn, before, writer, after, rfl, wrote, kept⟩)
    · exact ⟨steps, step, [], rfl, wrote, by simp⟩
    · refine ⟨before, writer, after ++ [step], by simp, wrote, fun later member => ?_⟩
      rcases List.mem_append.mp member with earlier | new
      · exact kept later earlier
      · rw [List.mem_singleton.mp new]
        exact ⟨goesOn, others⟩

namespace SourceFiles

variable {files : SourceFiles}

/-- A step writes what it writes one by one, over what was known or over nothing. -/
theorem columns_take (files : SourceFiles) (step : FileStep) :
    (step.take files).columns =
      step.writes.foldl (fun m pair => m.insert pair.1 pair.2)
        (if step.startsAnew then ∅ else files.columns) := by
  cases step <;> rfl

/-- After a step a file has the columns that the step wrote last for it, or else those it had,
unless the step started anew. -/
theorem columnsFor_take :
    (step.take files).columnsFor (some name) = some columns ↔
      LastFor step.writes name columns ∨
        (∀ write ∈ step.writes, write.1 ≠ name) ∧ step.startsAnew = false ∧
          files.columnsFor (some name) = some columns := by
  show (step.take files).columns.get? name = some columns ↔ _
  rw [columns_take, NameMap.get?_foldl_insert_eq_some_iff]
  cases step.startsAnew <;> simp [columnsFor]

/-- Files put together in steps have the columns that were last written. -/
theorem columnsFor_ofSteps (steps : List FileStep) :
    (ofSteps steps).columnsFor (some name) = some columns ↔ LastWritten steps name columns := by
  -- The last step decides, or it leaves the matter to those in front of it.
  induction steps using List.reverseRecOn with
  | nil =>
    have nothing : ¬LastWritten [] name columns := by simp [LastWritten]
    exact iff_of_false nofun nothing
  | append_singleton steps step ih =>
    unfold ofSteps at ih ⊢
    rw [List.foldl_append, List.foldl_cons, List.foldl_nil, columnsFor_take, ih,
      lastWritten_append_singleton]

/-- A single file is read where none is declared. -/
theorem columnsFor_none_of_single (single : files.names = [name]) :
    files.columnsFor none = files.columnsFor (some name) := by
  obtain ⟨⟨present, columns⟩, entries, rfl⟩ := List.map_eq_singleton_iff.mp single
  have found : files.columns.get? present = some columns :=
    NameMap.mem_entries_iff.mp (by rw [entries]; exact List.mem_cons_self)
  simp only [columnsFor, entries, found]

/-- Where there is not just one file, the implicit one is read where none is declared. -/
theorem columnsFor_none_of_several (several : files.names.length ≠ 1) :
    files.columnsFor none = files.columnsFor (some implicitSource) := by
  simp only [columnsFor]
  split
  · -- A single entry would make a single name.
    rename_i name columns entries
    simp [names, NameMap.names, entries] at several
  · rfl

/-- A step that does not start anew writes for one file. -/
theorem take_of_goesOn (goesOn : step.startsAnew = false) :
    ∃ name columns, step.writes = [(name, columns)] ∧
      ∀ files, step.take files = files.insert name columns := by
  cases step with
  | insert name columns | withFile name columns => exact ⟨name, columns, rfl, fun _ => rfl⟩
  | single columns | collect pairs => cases goesOn

/-- Columns written for different files can be written in either order. -/
theorem insert_comm {other : String} {others : List String} (files : SourceFiles)
    (apart : name ≠ other) :
    (files.insert name columns).insert other others =
      (files.insert other others).insert name columns :=
  congrArg SourceFiles.mk (files.columns.insert_comm apart)

/-- Whatever is done in turn with files, they answer by what was last written for each since all
were last replaced. Two writes in a row for different files can be exchanged, as steps and in a
list. -/
theorem ofSteps_last_write_wins :
    (∀ steps, (ofSteps steps).HoldsLast steps) ∧
      (∀ (before after : List FileStep) (first second : FileStep),
        first.startsAnew = false → second.startsAnew = false →
        (∀ write ∈ first.writes, ∀ other ∈ second.writes, write.1 ≠ other.1) →
        ofSteps (before ++ first :: second :: after) =
          ofSteps (before ++ second :: first :: after)) ∧
      ∀ (front back : List (String × List String)) (first second : String × List String),
        first.1 ≠ second.1 →
        ofList (front ++ first :: second :: back) = ofList (front ++ second :: first :: back) := by
  refine ⟨fun steps => ?_, ?_, ?_⟩
  · -- All answers follow from the columns that a file has by its name.
    have columns (name columns) : (ofSteps steps).columnsFor (some name) = some columns ↔
        LastWritten steps name columns := columnsFor_ofSteps steps
    have written (name) : (∃ columns, (ofSteps steps).columnsFor (some name) = some columns) ↔
        ∃ columns, LastWritten steps name columns := exists_congr (columns name)
    exact {
      columns
      missing := fun name => by
        rw [← written, ← Option.isSome_iff_exists, Option.not_isSome_iff_eq_none]
      known := fun name => contains_iff.trans (written name)
      listed := fun name => NameMap.mem_names_iff.trans (written name)
      increasing := (NameMap.pairwise_names _).imp precedesInUtf8_of_lt
      only := fun name => columnsFor_none_of_single
      several := columnsFor_none_of_several }
  · intro before after first second firstGoesOn secondGoesOn apart
    obtain ⟨name, columns, wrote, taken⟩ := take_of_goesOn firstGoesOn
    obtain ⟨other, others, wroteOther, takenOther⟩ := take_of_goesOn secondGoesOn
    have names : name ≠ other := apart (name, columns) (by simp [wrote]) (other, others)
      (by simp [wroteOther])
    -- What follows starts from the same files.
    simp only [ofSteps, List.foldl_append, List.foldl_cons, taken, takenOther, insert_comm _ names]
  · intro front back first second apart
    simp only [ofList, NameMap.ofList, List.foldl_append, List.foldl_cons,
      NameMap.insert_comm _ apart]

/-- The files of a garden, one of which is listed twice, and two that are added behind the list. -/
def gardenSteps (first second : FileStep) : List FileStep :=
  [.single ["tool"], .collect [("beds.csv", ["bed"]), ("file", ["row"]), ("beds.csv", ["plot"])],
    first, second]

/-- The garden holds what was written last, and trees and beds can be added in either order. -/
theorem ofSteps_last_write_wins_garden :
    (ofSteps (gardenSteps (.insert "trees.csv" ["tag"]) (.withFile "beds.csv" ["bed"]))).HoldsLast
        (gardenSteps (.insert "trees.csv" ["tag"]) (.withFile "beds.csv" ["bed"])) ∧
      "trees.csv" ≠ "beds.csv" ∧
      ofSteps (gardenSteps (.insert "trees.csv" ["tag"]) (.withFile "beds.csv" ["bed"])) =
        ofSteps (gardenSteps (.withFile "beds.csv" ["bed"]) (.insert "trees.csv" ["tag"])) := by
  obtain ⟨holds, exchanged, -⟩ := ofSteps_last_write_wins
  refine ⟨holds _, by decide, exchanged [_, _] [] _ _ rfl rfl ?_⟩
  simp [FileStep.writes]

end SourceFiles

end GraphLoad
