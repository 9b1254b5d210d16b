import GraphLoad.Proofs.Schema.SourceFiles
import GraphLoad.Schema.Check

/-! The more columns are known of the same files, the fewer faults are found, and the only ones to
go are those about columns that were missing. -/

namespace GraphLoad

/-- What is left of a list once some items with a property are dropped. -/
inductive Drops {α : Type} (P : α → Prop) : List α → List α → Prop where
  /-- Nothing is left of nothing. -/
  | nil : Drops P [] []
  /-- An item is kept at its place. -/
  | keep (item : α) {all left : List α} (rest : Drops P all left) :
    Drops P (item :: all) (item :: left)
  /-- An item with the property is dropped. -/
  | drop {item : α} {all left : List α} (droppable : P item) (rest : Drops P all left) :
    Drops P (item :: all) left

namespace Drops

variable {α β : Type} {P : α → Prop}

theorem refl (items : List α) : Drops P items items := by
  induction items with
  | nil => exact .nil
  | cons item rest ih => exact .keep item ih

/-- What is left stands in the order it stood in. -/
theorem sublist {all left : List α} (dropped : Drops P all left) : left.Sublist all := by
  induction dropped with
  | nil => exact .slnil
  | keep item _ ih => exact ih.cons_cons item
  | drop _ _ ih => exact ih.cons _

theorem append {all left others kept : List α} (first : Drops P all left)
    (second : Drops P others kept) : Drops P (all ++ others) (left ++ kept) := by
  induction first with
  | nil => exact second
  | keep item _ ih => exact .keep item ih
  | drop droppable _ ih => exact .drop droppable ih

theorem flatMap {items : List β} {before after : β → List α}
    (each : ∀ item, Drops P (before item) (after item)) :
    Drops P (items.flatMap before) (items.flatMap after) := by
  -- What goes is dropped from the block of one item.
  induction items with
  | nil => exact .nil
  | cons item rest ih =>
    rw [List.flatMap_cons, List.flatMap_cons]
    exact (each item).append ih

/-- A narrower filter drops items of the wider one. -/
theorem map_filter {make : β → α} (droppable : ∀ item, P (make item)) {wide narrow : β → Bool}
    (within : ∀ item, narrow item = true → wide item = true) (items : List β) :
    Drops P ((items.filter wide).map make) ((items.filter narrow).map make) := by
  induction items with
  | nil => exact .nil
  | cons item rest ih =>
    -- An item is in both, in the wider one alone, or in none.
    by_cases inNarrow : narrow item = true
    · simpa [inNarrow, within item inNarrow] using ih.keep (make item)
    · by_cases inWide : wide item = true
      · simpa [inNarrow, inWide] using ih.drop (droppable item)
      · simpa [inNarrow, inWide] using ih

end Drops

/-- Whether a fault says that a column is missing. -/
def Fault.missesColumn : Fault → Bool
  | missingColumn .. | missingEndpointColumn .. => true
  | _ => false

/-- Reports of which the second lacks nothing but complaints about missing columns. -/
abbrev FewerMissing (before after : List Fault) : Prop :=
  Drops (fun d => d.missesColumn = true) before after

namespace SourceFiles

/-- The same files are known, and of each of them at least the same columns. -/
structure Within (few many : SourceFiles) : Prop where
  /-- The files go by the same names. -/
  names : few.names = many.names
  /-- No file lacks a column that it had. -/
  columns : ∀ name fewer more, few.columnsFor (some name) = some fewer →
    many.columnsFor (some name) = some more → fewer ⊆ more

variable {few many : SourceFiles}

/-- Both know the same files. -/
theorem Within.contains_eq (within : few.Within many) (name : String) :
    few.contains name = many.contains name := by
  have named (files : SourceFiles) : files.contains name = true ↔ name ∈ files.names :=
    contains_iff.trans NameMap.mem_names_iff.symm
  rw [Bool.eq_iff_iff, named, named, within.names]

/-- Whatever file is declared, or if none is, both find columns or none of them does. The file that
is looked at does not depend on the columns. -/
theorem Within.columnsFor (within : few.Within many) (source : Option String) :
    Option.Rel (· ⊆ ·) (few.columnsFor source) (many.columnsFor source) := by
  have declared (name : String) :
      Option.Rel (· ⊆ ·) (few.columnsFor (some name)) (many.columnsFor (some name)) := by
    -- A file is known on both sides or on neither.
    have known := within.contains_eq name
    have isSome (files : SourceFiles) :
        files.contains name = (files.columnsFor (some name)).isSome := rfl
    rw [isSome, isSome] at known
    cases first : few.columnsFor (some name) <;> cases second : many.columnsFor (some name)
    · exact .none
    · simp [first, second] at known
    · simp [first, second] at known
    · exact .some (within.columns name _ _ first second)
  cases source with
  | some name => exact declared name
  | none =>
    -- The names alone tell which file stands in.
    by_cases single : few.names.length = 1
    · obtain ⟨name, only⟩ := List.length_eq_one_iff.mp single
      rw [columnsFor_none_of_single only, columnsFor_none_of_single (within.names ▸ only)]
      exact declared name
    · rw [columnsFor_none_of_several single, columnsFor_none_of_several (within.names ▸ single)]
      exact declared implicitSource

/-- A single file knows more once more of its columns are known. -/
theorem within_single {fewer more : List String} (within : fewer ⊆ more) :
    (single fewer).Within (single more) where
  names := rfl
  columns := by
    intro name first second atFirst atSecond
    simp only [single, columnsFor, NameMap.get?_insert, NameMap.get?_empty] at atFirst atSecond
    -- The file has the implicit name both times.
    split at atFirst
    · rename_i same
      rw [if_pos same] at atSecond
      obtain rfl := Option.some.inj atFirst
      obtain rfl := Option.some.inj atSecond
      exact within
    · cases atFirst

end SourceFiles

variable {few many : SourceFiles}

/-- Fewer columns are missing from more. -/
theorem fewerMissing_filter {fewer more : List String} (within : fewer ⊆ more)
    (properties : List Property) (column : Property → String) {fault : Property → Fault}
    (missing : ∀ p, (fault p).missesColumn = true) :
    FewerMissing ((properties.filter fun p => !fewer.contains (column p)).map fault)
      ((properties.filter fun p => !more.contains (column p)).map fault) := by
  apply Drops.map_filter missing
  intro p absent
  simp only [List.contains_eq_mem, Bool.not_eq_true', decide_eq_false_iff_not] at absent ⊢
  exact fun present => absent (within present)

/-- The check of an element asks the same file for its columns. -/
theorem Element.fewerMissing_check (within : few.Within many) (e : Element) :
    FewerMissing (e.check (some few)) (e.check (some many)) := by
  have source : e.checkSource few = e.checkSource many := by
    unfold checkSource
    simp only [within.contains_eq, within.names]
  have columns : FewerMissing (e.checkColumns few) (e.checkColumns many) := by
    unfold checkColumns
    have looked := within.columnsFor e.sourceName
    generalize few.columnsFor e.sourceName = before,
      many.columnsFor e.sourceName = after at looked ⊢
    cases looked with
    | none => exact .nil
    | some more => exact fewerMissing_filter more _ _ fun _ => rfl
  -- Names, key and source are reported as before, and of the columns no more are missing.
  simp only [check, checkProperties, source]
  exact (Drops.refl _).append ((Drops.refl _).append columns)

namespace Model

/-- The columns known of a row file are looked up in the same file. -/
theorem rel_rowColumns (within : few.Within many) (plan : EndpointPlan) :
    Option.Rel (· ⊆ ·) (rowColumns few plan) (rowColumns many plan) := by
  unfold rowColumns
  have declared := within.columnsFor (some plan.rowFile)
  split
  · exact declared
  · -- What is known without a declaration goes first in both.
    have undeclared := within.columnsFor none
    generalize few.columnsFor none = before, many.columnsFor none = after at undeclared ⊢
    cases undeclared with
    | none => simpa using declared
    | some more => exact .some more

/-- An end that is found in fewer columns is found in more. -/
theorem fewerMissing_checkEndColumns {fewer more : List String} (within : fewer ⊆ more)
    (r : Relationship) (plan : EndpointPlan) (default : String) (e : Endpoint) (n : Node) :
    FewerMissing (checkEndColumns r plan fewer default e n)
      (checkEndColumns r plan more default e n) := by
  unfold checkEndColumns
  split
  · exact .nil
  · exact fewerMissing_filter within _ _ fun _ => rfl

/-- The check of the endpoints asks the same file for the columns of both ends. -/
theorem fewerMissing_checkEndpoints (within : few.Within many) (m : Model) (default : String)
    (r : Relationship) :
    FewerMissing (m.checkEndpoints few default r) (m.checkEndpoints many default r) := by
  unfold checkEndpoints
  split
  · rename_i source target _ _
    simp only
    -- Both ends are asked of the same columns, if any are known.
    have looked := rel_rowColumns within (r.plan source target default)
    generalize rowColumns few _ = before, rowColumns many _ = after at looked ⊢
    cases looked with
    | none => exact .nil
    | some more =>
      exact (fewerMissing_checkEndColumns more ..).append (fewerMissing_checkEndColumns more ..)
  · exact .nil

/-- When more columns become known of the same files, faults about missing columns may go; none is
added, and none changes its place. So faults depend on the columns of each file, not on how they are
listed. -/
theorem faults_of_more_columns (m : Model) (default : String) :
    (∀ few many : SourceFiles, few.Within many →
      (m.faults (some many) default).Sublist (m.faults (some few) default) ∧
        FewerMissing (m.faults (some few) default) (m.faults (some many) default)) ∧
      ∀ first second : SourceFiles, first.Within second → second.Within first →
        m.faults (some first) default = m.faults (some second) default := by
  have fewer (few many : SourceFiles) (within : few.Within many) :
      FewerMissing (m.faults (some few) default) (m.faults (some many) default) := by
    -- The structure is checked without files, and all else item by item.
    unfold faults
    have elements : FewerMissing (m.elements.flatMap (·.check (some few)))
        (m.elements.flatMap (·.check (some many))) :=
      Drops.flatMap fun e => e.fewerMissing_check within
    have endpoints : FewerMissing (m.relationships.flatMap (m.checkEndpoints few default))
        (m.relationships.flatMap (m.checkEndpoints many default)) :=
      Drops.flatMap fun r => m.fewerMissing_checkEndpoints within default r
    exact ((Drops.refl _).append elements).append endpoints
  refine ⟨fun few many within => ⟨(fewer few many within).sublist, fewer few many within⟩, ?_⟩
  intro first second forth back
  -- Each report is left of the other, so neither lacks anything.
  exact (fewer second first back).sublist.antisymm (fewer first second forth).sublist

/-- Trees with their heights. -/
def grove : Model where
  nodes := [
    { label := "Tree",
      properties := [
        { name := "tag", column := "tag", isUnique := true },
        { name := "height", column := "height" }] }]

/-- Once the heights are found, in whatever place, nothing is said against the grove any more. -/
theorem faults_of_more_columns_grove :
    (SourceFiles.single ["tag"]).Within (.single ["height", "tag"]) ∧
      grove.faults (some (.single ["tag"])) "trees.csv" =
        [.missingColumn (.node "Tree") "height" "height"] ∧
      FewerMissing (grove.faults (some (.single ["tag"])) "trees.csv")
        (grove.faults (some (.single ["height", "tag"])) "trees.csv") ∧
      grove.faults (some (.single ["height", "tag"])) "trees.csv" =
        grove.faults (some (.single ["tag", "height", "tag"])) "trees.csv" := by
  -- The list with a repeat has the same columns as the one without, so each is within the other.
  have more : (SourceFiles.single ["tag"]).Within (.single ["height", "tag"]) :=
    SourceFiles.within_single (by decide)
  have forth : (SourceFiles.single ["height", "tag"]).Within (.single ["tag", "height", "tag"]) :=
    SourceFiles.within_single (by decide)
  have back : (SourceFiles.single ["tag", "height", "tag"]).Within (.single ["height", "tag"]) :=
    SourceFiles.within_single (by decide)
  obtain ⟨fewer, same⟩ := faults_of_more_columns grove "trees.csv"
  exact ⟨more, by decide, (fewer _ _ more).2, same _ _ forth back⟩

end Model

end GraphLoad
