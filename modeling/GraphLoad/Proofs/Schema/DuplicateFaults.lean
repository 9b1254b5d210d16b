import GraphLoad.Proofs.Schema.Repeats
import GraphLoad.Proofs.Schema.StructuralFaults

/-! What is declared twice: labels, relationships and property names are reported for exactly those
that are repeated, each once, in the order of their second occurrences. -/

namespace GraphLoad

/-- Whether the fault is that two nodes share a label. -/
def Fault.isDuplicateLabel : Fault → Bool
  | duplicateLabel _ => true
  | _ => false

/-- Whether the fault is that two relationships share type, source and target. -/
def Fault.isDuplicateRelationship : Fault → Bool
  | duplicateRelationship .. => true
  | _ => false

/-- Whether the fault is that a node or a relationship is declared twice. -/
def Fault.isRedeclaration (d : Fault) : Bool :=
  d.isDuplicateLabel || d.isDuplicateRelationship

/-- Reports name the items that a list repeats, each in a report of its own. -/
def ReportRepeats {α : Type} [BEq α] (report : α → Fault) (items : List α)
    (reports : List Fault) : Prop :=
  ∃ found, NamesRepeats items found ∧ reports = found.map report

/-- There is one way to report the repeats of a list. -/
theorem reportRepeats_iff {α : Type} [BEq α] [LawfulBEq α] {report : α → Fault} {items : List α}
    {reports : List Fault} :
    ReportRepeats report items reports ↔ (repeats items).map report = reports := by
  simp only [ReportRepeats, namesRepeats_iff, exists_eq_left, eq_comm]

namespace Model

variable (m : Model) (files : Option SourceFiles) (default : String)

/-- Redeclarations are reported by the two walks over labels and relationships, and by no other
check. -/
theorem filter_isRedeclaration_faults :
    (m.faults files default).filter Fault.isRedeclaration =
      (repeats m.nodeLabels).map .duplicateLabel ++
        (repeats (m.relationships.map fun r => (r.type, r.source, r.target))).map
          fun triple => .duplicateRelationship triple.1 triple.2.1 triple.2.2 := by
  have structural : ∀ d : Fault, d.isRedeclaration = true → d.concernsColumns = false := by
    intro d again
    cases d with
    | duplicateLabel | duplicateRelationship => rfl
    | _ => cases again
  -- An element by itself can only repeat names of properties.
  have elements : (m.elements.flatMap (·.check none)).filter Fault.isRedeclaration = [] := by
    refine List.filter_eq_nil_iff.mpr fun d reported => ?_
    obtain ⟨e, _, raised⟩ := List.mem_flatMap.mp reported
    rcases Element.of_mem_check_none raised with ⟨name, rfl⟩ | ⟨name, rfl⟩ <;>
      exact Bool.false_ne_true
  have ends : (m.relationships.flatMap fun r =>
      m.checkEnds r ++ m.checkRowFile default r).filter Fault.isRedeclaration = [] := by
    refine List.filter_eq_nil_iff.mpr fun d reported => ?_
    obtain ⟨r, _, raised⟩ := List.mem_flatMap.mp reported
    rcases List.mem_append.mp raised with atEnd | atFile
    · obtain ⟨e, rfl⟩ := of_mem_checkEnds atEnd
      exact Bool.false_ne_true
    · obtain ⟨_, _, rfl⟩ := of_mem_checkRowFile atFile
      exact Bool.false_ne_true
  -- Of the four reports on the structure, the first and the third are left.
  rw [filter_faults_of_structural structural, faults, checkStructure]
  simp only [List.filter_append, elements, ends, List.append_nil]
  rw [filter_map_eq_self fun _ => rfl, filter_map_eq_nil fun _ => rfl,
    filter_map_eq_self fun _ => rfl, List.append_nil]

/-- Shared labels are reported for the repeats among the labels. -/
theorem filter_isDuplicateLabel_faults :
    (m.faults files default).filter Fault.isDuplicateLabel =
      (repeats m.nodeLabels).map .duplicateLabel := by
  have again : ∀ d : Fault, d.isDuplicateLabel = true → d.isRedeclaration = true := by
    intro d label
    rw [Fault.isRedeclaration, label, Bool.true_or]
  -- Of the redeclarations, those of relationships drop out.
  rw [← filter_filter_of_imp again, filter_isRedeclaration_faults, List.filter_append,
    filter_map_eq_self fun _ => rfl, filter_map_eq_nil fun _ => rfl, List.append_nil]

/-- Relationships declared again are reported for the repeats among their types and ends. -/
theorem filter_isDuplicateRelationship_faults :
    (m.faults files default).filter Fault.isDuplicateRelationship =
      (repeats (m.relationships.map fun r => (r.type, r.source, r.target))).map
        fun triple => .duplicateRelationship triple.1 triple.2.1 triple.2.2 := by
  have again : ∀ d : Fault, d.isDuplicateRelationship = true → d.isRedeclaration = true := by
    intro d triple
    rw [Fault.isRedeclaration, triple, Bool.or_true]
  -- Of the redeclarations, those of labels drop out.
  rw [← filter_filter_of_imp again, filter_isRedeclaration_faults, List.filter_append,
    filter_map_eq_nil fun _ => rfl, filter_map_eq_self fun _ => rfl, List.nil_append]

/-- What is declared twice is reported once, in the order of second occurrences: labels,
relationships of one type between the same ends, and property names of an element. No other reports
do so. -/
theorem repeats_reported (reports : List Fault) :
    ((m.faults files default).filter Fault.isDuplicateLabel = reports ↔
      ReportRepeats .duplicateLabel m.nodeLabels reports) ∧
    ((m.faults files default).filter Fault.isDuplicateRelationship = reports ↔
      ReportRepeats (fun triple => .duplicateRelationship triple.1 triple.2.1 triple.2.2)
        (m.relationships.map fun r => (r.type, r.source, r.target)) reports) ∧
    ∀ e : Element, e.checkNames = reports ↔
      ReportRepeats (.duplicateProperty e.ref) e.propertyNames reports := by
  refine ⟨?_, ?_, fun e => ?_⟩
  · rw [filter_isDuplicateLabel_faults, reportRepeats_iff]
  · rw [filter_isDuplicateRelationship_faults, reportRepeats_iff]
  · rw [reportRepeats_iff, Element.checkNames]

end Model

end GraphLoad
