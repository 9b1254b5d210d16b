import GraphLoad.Proofs.Schema.Repeats

/-! Which models pass the check: blocking faults are absent exactly when the model is compilable and
its files hold what the check looks up in them. -/

namespace GraphLoad

/-- None of the faults stops a model from being compiled. -/
def Unblocked (faults : List Fault) : Prop :=
  ∀ d ∈ faults, d.isBlocking = false

instance (faults : List Fault) : Decidable (Unblocked faults) :=
  inferInstanceAs (Decidable (∀ d ∈ faults, d.isBlocking = false))

@[simp] theorem unblocked_nil : Unblocked [] := by
  simp [Unblocked]

@[simp] theorem unblocked_append {first second : List Fault} :
    Unblocked (first ++ second) ↔ Unblocked first ∧ Unblocked second :=
  List.forall_mem_append

@[simp] theorem unblocked_flatMap {α : Type} {items : List α} {check : α → List Fault} :
    Unblocked (items.flatMap check) ↔ ∀ item ∈ items, Unblocked (check item) := by
  -- A fault of the whole list is a fault of one of its items.
  simp only [Unblocked, List.mem_flatMap]
  exact ⟨fun free item member d reported => free d ⟨item, member, reported⟩,
    fun free d ⟨item, member, reported⟩ => free item member d reported⟩

/-- A list of faults that all block is unblocked only when it is empty. -/
theorem unblocked_map_iff {α : Type} {items : List α} {fault : α → Fault}
    (blocks : ∀ item, (fault item).isBlocking = true) :
    Unblocked (items.map fault) ↔ items = [] := by
  cases items with
  | nil => simp
  | cons head rest => simp [Unblocked, blocks]

/-- A list of faults none of which blocks is unblocked. -/
theorem unblocked_map {α : Type} {items : List α} {fault : α → Fault}
    (tolerated : ∀ item, (fault item).isBlocking = false) : Unblocked (items.map fault) := by
  intro d reported
  obtain ⟨item, _, rfl⟩ := List.mem_map.mp reported
  exact tolerated item

/-- Filtering for blocking faults finds nothing exactly when none is there. -/
theorem filter_isBlocking_eq_nil_iff {faults : List Fault} :
    faults.filter Fault.isBlocking = [] ↔ Unblocked faults := by
  simp [Unblocked, List.filter_eq_nil_iff]

/-- A model that statements can be written for, whatever its source files hold. -/
structure Model.Compilable (m : Model) : Prop where
  /-- No two nodes share a label. -/
  labels : m.nodeLabels.Nodup
  /-- Every node has a property that tells its instances apart. -/
  identified : ∀ n ∈ m.nodes, n.identifying ≠ []
  /-- Both ends of every relationship lead to a node. -/
  resolved : ∀ r ∈ m.relationships, ∀ e : Endpoint, ∃ n, m.node? (r.label e) = some n
  /-- No composite key has a single member. -/
  keys : ∀ e ∈ m.elements, e.key.length ≠ 1

/-- A node is found by columns that are known, or was itself checked on the row file. -/
def EndReadable (plan : EndpointPlan) (columns : List String) (default : String) (e : Endpoint)
    (n : Node) : Prop :=
  (plan.role e = .primary ∧ n.fileOr default = plan.rowFile) ∨
    ∀ p ∈ n.identifying, (plan.role e).column p ∈ columns

/-- Everything the check looks up in the source files is there. -/
structure Model.ReadableFrom (m : Model) (files : SourceFiles) (default : String) : Prop where
  /-- Declared files are known. -/
  known : ∀ e ∈ m.elements, ∀ name, e.sourceName = some name → files.contains name = true
  /-- Properties are read from columns of the file that an element's declaration leads to. -/
  columns : ∀ e ∈ m.elements, ∀ columns, files.columnsFor e.sourceName = some columns →
    ∀ p ∈ e.properties, p.column ∈ columns
  /-- Relationships find their nodes by columns of their row file. -/
  ends : ∀ r ∈ m.relationships, ∀ source target,
    m.node? r.source = some source → m.node? r.target = some target →
    ∀ columns, rowColumns files (r.plan source target default) = some columns →
      EndReadable (r.plan source target default) columns default .source source ∧
        EndReadable (r.plan source target default) columns default .target target

/-- Names that occur twice are reported but never block. -/
theorem Element.unblocked_checkNames (e : Element) : Unblocked e.checkNames :=
  unblocked_map fun _ => rfl

/-- The check of the key blocks exactly the keys with a single member. -/
theorem Element.unblocked_checkKey_iff (e : Element) :
    Unblocked e.checkKey.toList ↔ e.key.length ≠ 1 := by
  -- Only a list of one item matches the pattern of the check.
  unfold checkKey
  split
  · rename_i only single
    simp [Unblocked, Fault.isBlocking, Fault.isFatal, single]
  · rename_i several
    simp only [Option.toList_none, unblocked_nil, true_iff]
    intro one
    obtain ⟨only, single⟩ := List.length_eq_one_iff.mp one
    exact several only single

/-- The check of the source blocks exactly the declared files that are not known. -/
theorem Element.unblocked_checkSource_iff (e : Element) (files : SourceFiles) :
    Unblocked (e.checkSource files) ↔
      ∀ name, e.sourceName = some name → files.contains name = true := by
  -- Only a declared file can be reported, and the report blocks.
  unfold checkSource
  cases declared : e.sourceName with
  | none => simp
  | some name =>
    by_cases known : files.contains name = true
    · simp [known]
    · simp [known, Unblocked, Fault.isBlocking, Fault.isFatal, Fault.concernsColumns]

/-- The check of the columns blocks exactly the elements with a column that their file lacks. -/
theorem Element.unblocked_checkColumns_iff (e : Element) (files : SourceFiles) :
    Unblocked (e.checkColumns files) ↔
      ∀ columns, files.columnsFor e.sourceName = some columns →
        ∀ p ∈ e.properties, p.column ∈ columns := by
  unfold checkColumns
  cases looked : files.columnsFor e.sourceName with
  | none => simp
  | some columns =>
    -- Each property that is left over by the filter gives a fault, and each such fault blocks.
    rw [unblocked_map_iff fun _ => rfl]
    simp [List.filter_eq_nil_iff]

/-- Without source files an element blocks exactly when its key has a single member. -/
theorem Element.unblocked_check_none_iff (e : Element) :
    Unblocked (e.check none) ↔ e.key.length ≠ 1 := by
  rw [check, unblocked_append, e.unblocked_checkKey_iff]
  exact and_iff_right e.unblocked_checkNames

/-- With source files the declared file and the columns are looked up as well. -/
theorem Element.unblocked_check_some_iff (e : Element) (files : SourceFiles) :
    Unblocked (e.check (some files)) ↔
      e.key.length ≠ 1 ∧ (∀ name, e.sourceName = some name → files.contains name = true) ∧
        ∀ columns, files.columnsFor e.sourceName = some columns →
          ∀ p ∈ e.properties, p.column ∈ columns := by
  -- Of the four checks of an element only that of its names tolerates what it finds.
  simp only [check, checkProperties, unblocked_append, e.unblocked_checkKey_iff,
    e.unblocked_checkSource_iff, e.unblocked_checkColumns_iff, e.unblocked_checkNames]
  tauto

/-- The check of the ends blocks exactly the relationships with an end that leads nowhere. -/
theorem Model.unblocked_checkEnds_iff (m : Model) (r : Relationship) :
    Unblocked (m.checkEnds r) ↔ ∀ e : Endpoint, ∃ n, m.node? (r.label e) = some n := by
  have ends : ∀ e : Endpoint, e ∈ [Endpoint.source, Endpoint.target] := by
    intro e
    cases e <;> simp
  constructor
  · intro free e
    cases found : m.node? (r.label e) with
    | some n => exact ⟨n, rfl⟩
    | none =>
      -- The end would have been reported, and the report blocks.
      have reported : Fault.unknownEndpoint r.type e (r.label e) ∈ m.checkEnds r :=
        List.mem_filterMap.mpr ⟨e, ends e, by simp [found]⟩
      simpa [Fault.isBlocking, Fault.isFatal] using free _ reported
  · -- An end that leads to a node is not reported.
    intro resolved d reported
    obtain ⟨e, _, raised⟩ := List.mem_filterMap.mp reported
    obtain ⟨n, found⟩ := resolved e
    simp [found] at raised

/-- An open choice of the row file is reported but never blocks. -/
theorem Model.unblocked_checkRowFile (m : Model) (default : String) (r : Relationship) :
    Unblocked (m.checkRowFile default r) := by
  unfold checkRowFile
  split
  · split
    · exact unblocked_nil
    · -- The one report is neither fatal nor about columns.
      simp [Unblocked, Fault.isBlocking, Fault.isFatal, Fault.concernsColumns]
  · exact unblocked_nil

/-- The check of the structure blocks exactly on labels, on nodes that cannot be identified, and on
ends that lead nowhere. -/
theorem Model.unblocked_checkStructure_iff (m : Model) (default : String) :
    Unblocked (m.checkStructure default) ↔
      m.nodeLabels.Nodup ∧ (∀ n ∈ m.nodes, n.identifying ≠ []) ∧
        ∀ r ∈ m.relationships, ∀ e : Endpoint, ∃ n, m.node? (r.label e) = some n := by
  have labels : Unblocked ((repeats m.nodeLabels).map .duplicateLabel) ↔ m.nodeLabels.Nodup := by
    rw [unblocked_map_iff fun _ => rfl, repeats_eq_nil_iff]
  have identified : Unblocked ((m.nodes.filter (·.identifying.isEmpty)).map
      fun n => .noIdentifyingProperty n.label) ↔ ∀ n ∈ m.nodes, n.identifying ≠ [] := by
    rw [unblocked_map_iff fun _ => rfl]
    simp [List.filter_eq_nil_iff]
  -- Of the four parts of the structure check, that of repeated relationships never blocks.
  rw [checkStructure, unblocked_append, unblocked_append, unblocked_append, labels, identified,
    and_iff_left (unblocked_map (by exact fun _ => rfl))]
  simp only [unblocked_flatMap, unblocked_append, m.unblocked_checkEnds_iff,
    m.unblocked_checkRowFile, and_true, and_assoc]

/-- One end blocks exactly when its node is found by a column that is not known and was not checked
with the node. -/
theorem Model.unblocked_checkEndColumns_iff (r : Relationship) (plan : EndpointPlan)
    (columns : List String) (default : String) (e : Endpoint) (n : Node) :
    Unblocked (checkEndColumns r plan columns default e n) ↔
      EndReadable plan columns default e n := by
  -- An end that is skipped is readable by the first alternative, any other by the second.
  unfold checkEndColumns EndReadable
  split
  · rename_i covered
    simp [covered]
  · rename_i open_
    rw [unblocked_map_iff fun _ => rfl]
    simp [List.filter_eq_nil_iff, open_]

/-- The ends of a relationship block exactly when one of its nodes cannot be found in the rows. -/
theorem Model.unblocked_checkEndpoints_iff (m : Model) (files : SourceFiles) (default : String)
    (r : Relationship) :
    Unblocked (m.checkEndpoints files default r) ↔
      ∀ source target, m.node? r.source = some source → m.node? r.target = some target →
        ∀ columns, rowColumns files (r.plan source target default) = some columns →
          EndReadable (r.plan source target default) columns default .source source ∧
            EndReadable (r.plan source target default) columns default .target target := by
  unfold checkEndpoints
  split
  · rename_i source target first second
    dsimp only
    constructor
    · -- Labels lead to one node each, so these are the nodes that were looked up.
      intro free other another atSource atTarget columns looked
      obtain rfl : source = other := Option.some.inj (first.symm.trans atSource)
      obtain rfl : target = another := Option.some.inj (second.symm.trans atTarget)
      rw [looked] at free
      simpa only [unblocked_append, unblocked_checkEndColumns_iff] using free
    · intro readable
      cases looked : rowColumns files (r.plan source target default) with
      | none => exact unblocked_nil
      | some columns =>
        simpa only [unblocked_append, unblocked_checkEndColumns_iff] using
          readable source target first second columns looked
  · -- With an end that leads nowhere there are no columns to look up.
    rename_i missing
    simp only [unblocked_nil, true_iff]
    intro source target first second
    exact absurd second (missing source target first)

/-- Without source files the check passes exactly the compilable models. -/
theorem Model.unblocked_faults_none_iff (m : Model) (default : String) :
    Unblocked (m.faults none default) ↔ m.Compilable := by
  simp only [faults, unblocked_append, unblocked_flatMap, unblocked_nil, and_true,
    m.unblocked_checkStructure_iff, Element.unblocked_check_none_iff]
  exact ⟨fun ⟨⟨labels, identified, resolved⟩, keys⟩ => ⟨labels, identified, resolved, keys⟩,
    fun sound => ⟨⟨sound.labels, sound.identified, sound.resolved⟩, sound.keys⟩⟩

/-- With source files the check passes exactly the compilable models that can be read from them. -/
theorem Model.unblocked_faults_some_iff (m : Model) (files : SourceFiles) (default : String) :
    Unblocked (m.faults (some files) default) ↔
      m.Compilable ∧ m.ReadableFrom files default := by
  simp only [faults, unblocked_append, unblocked_flatMap, m.unblocked_checkStructure_iff,
    Element.unblocked_check_some_iff, m.unblocked_checkEndpoints_iff]
  -- The rules on the model and those on the files are interleaved in the check of the elements.
  constructor
  · rintro ⟨⟨⟨labels, identified, resolved⟩, elements⟩, ends⟩
    exact ⟨⟨labels, identified, resolved, fun e member => (elements e member).1⟩,
      ⟨fun e member => (elements e member).2.1, fun e member => (elements e member).2.2, ends⟩⟩
  · rintro ⟨sound, readable⟩
    exact ⟨⟨⟨sound.labels, sound.identified, sound.resolved⟩, fun e member =>
      ⟨sound.keys e member, readable.known e member, readable.columns e member⟩⟩, readable.ends⟩

end GraphLoad
