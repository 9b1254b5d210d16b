import GraphLoad.Schema.Check

/-! The faults of a model that do not lie in what its source files hold: they are found, and in one
order, whether files are known or not. -/

namespace GraphLoad

/-- The faults that do not lie in what the source files hold. -/
def structuralFaults (faults : List Fault) : List Fault :=
  faults.filter fun d => !d.concernsColumns

@[simp] theorem structuralFaults_nil : structuralFaults [] = [] :=
  rfl

@[simp] theorem structuralFaults_append (first second : List Fault) :
    structuralFaults (first ++ second) = structuralFaults first ++ structuralFaults second :=
  List.filter_append ..

@[simp] theorem structuralFaults_flatMap {α : Type} (items : List α) (check : α → List Fault) :
    structuralFaults (items.flatMap check) =
      items.flatMap fun item => structuralFaults (check item) :=
  List.filter_flatMap

/-- Faults none of which lies in the files are kept. -/
theorem structuralFaults_eq_self {faults : List Fault}
    (structural : ∀ d ∈ faults, d.concernsColumns = false) : structuralFaults faults = faults :=
  List.filter_eq_self.mpr fun d reported => by simp [structural d reported]

/-- Reports that are all of a kind stay where this kind is asked for. -/
theorem filter_map_eq_self {α : Type} {kind : Fault → Bool} {items : List α} {fault : α → Fault}
    (same : ∀ item, kind (fault item) = true) :
    (items.map fault).filter kind = items.map fault := by
  refine List.filter_eq_self.mpr fun d reported => ?_
  obtain ⟨item, _, rfl⟩ := List.mem_map.mp reported
  exact same item

/-- Reports none of which is of a kind go where this kind is asked for. -/
theorem filter_map_eq_nil {α : Type} {kind : Fault → Bool} {items : List α} {fault : α → Fault}
    (other : ∀ item, kind (fault item) = false) : (items.map fault).filter kind = [] := by
  refine List.filter_eq_nil_iff.mpr fun d reported => ?_
  obtain ⟨item, _, rfl⟩ := List.mem_map.mp reported
  simp [other item]

/-- Of reports of a wider kind, those of a narrower one are all there are. -/
theorem filter_filter_of_imp {kind wider : Fault → Bool}
    (within : ∀ d, kind d = true → wider d = true) (faults : List Fault) :
    (faults.filter wider).filter kind = faults.filter kind := by
  rw [List.filter_filter]
  refine List.filter_congr fun d _ => ?_
  -- What is of the narrower kind passes the wider filter as well.
  cases sort : kind d with
  | false => rfl
  | true => exact within d sort

/-- Faults that are of one kind and do not lie in the files are kept. -/
theorem structuralFaults_map_eq_self {α : Type} {items : List α} {fault : α → Fault}
    (structural : ∀ item, (fault item).concernsColumns = false) :
    structuralFaults (items.map fault) = items.map fault :=
  filter_map_eq_self fun item => by rw [structural item, Bool.not_false]

/-- Faults that are of one kind and lie in the files are dropped. -/
theorem structuralFaults_map_eq_nil {α : Type} {items : List α} {fault : α → Fault}
    (columnar : ∀ item, (fault item).concernsColumns = true) :
    structuralFaults (items.map fault) = [] :=
  filter_map_eq_nil fun item => by rw [columnar item, Bool.not_true]

namespace Element

/-- Without files, an element is reported for a name that it repeats or for its key. -/
theorem of_mem_check_none {e : Element} {d : Fault} (reported : d ∈ e.check none) :
    (∃ name, d = .duplicateProperty e.ref name) ∨ ∃ name, d = .singleKeyProperty e.ref name := by
  -- Without files, only names and key are looked at.
  rcases List.mem_append.mp reported with named | keyed
  · obtain ⟨name, _, rfl⟩ := List.mem_map.mp named
    exact .inl ⟨name, rfl⟩
  · unfold checkKey at keyed
    split at keyed
    · obtain rfl := List.mem_singleton.mp keyed
      exact .inr ⟨_, rfl⟩
    · cases keyed

/-- The check of the names does not look at files. -/
theorem structuralFaults_checkNames (e : Element) :
    structuralFaults e.checkNames = e.checkNames :=
  structuralFaults_map_eq_self fun _ => rfl

/-- The check of the key does not look at files. -/
theorem structuralFaults_checkKey (e : Element) :
    structuralFaults e.checkKey.toList = e.checkKey.toList := by
  unfold checkKey
  split <;> rfl

/-- The check of the source looks at nothing but files. -/
theorem structuralFaults_checkSource (e : Element) (files : SourceFiles) :
    structuralFaults (e.checkSource files) = [] := by
  unfold checkSource
  split
  · split <;> rfl
  · rfl

/-- The check of the columns looks at nothing but files. -/
theorem structuralFaults_checkColumns (e : Element) (files : SourceFiles) :
    structuralFaults (e.checkColumns files) = [] := by
  unfold checkColumns
  split
  · exact structuralFaults_map_eq_nil fun _ => rfl
  · rfl

/-- Apart from what its files lack, an element breaks the same rules with files and without. -/
theorem structuralFaults_check (e : Element) (files : SourceFiles) :
    structuralFaults (e.check (some files)) = e.check none := by
  -- The checks that look at files stand around those that do not, and leave nothing.
  simp only [check, checkProperties, structuralFaults_append, structuralFaults_checkNames,
    structuralFaults_checkKey, structuralFaults_checkSource, structuralFaults_checkColumns,
    List.nil_append, List.append_nil]

end Element

namespace Model

/-- The check of the ends reports ends that lead to no node. -/
theorem of_mem_checkEnds {m : Model} {r : Relationship} {d : Fault}
    (reported : d ∈ m.checkEnds r) : ∃ e, d = .unknownEndpoint r.type e (r.label e) := by
  obtain ⟨e, _, raised⟩ := List.mem_filterMap.mp reported
  split at raised
  · cases raised
  · exact ⟨e, (Option.some.inj raised).symm⟩

/-- The check of the row file reports that it is open. -/
theorem of_mem_checkRowFile {m : Model} {default : String} {r : Relationship} {d : Fault}
    (reported : d ∈ m.checkRowFile default r) :
    ∃ sourceFile targetFile, d = .ambiguousSource r.type sourceFile targetFile := by
  unfold checkRowFile at reported
  -- Of all branches of the check, one has a report.
  split at reported
  · split at reported
    · cases reported
    · exact ⟨_, _, List.mem_singleton.mp reported⟩
  · cases reported

/-- The check of the ends does not look at files. -/
theorem structuralFaults_checkEnds (m : Model) (r : Relationship) :
    structuralFaults (m.checkEnds r) = m.checkEnds r := by
  refine structuralFaults_eq_self fun d reported => ?_
  obtain ⟨e, rfl⟩ := of_mem_checkEnds reported
  rfl

/-- The check of the row file does not look at files. -/
theorem structuralFaults_checkRowFile (m : Model) (default : String) (r : Relationship) :
    structuralFaults (m.checkRowFile default r) = m.checkRowFile default r := by
  refine structuralFaults_eq_self fun d reported => ?_
  obtain ⟨_, _, rfl⟩ := of_mem_checkRowFile reported
  rfl

/-- The check of the structure does not look at files. -/
theorem structuralFaults_checkStructure (m : Model) (default : String) :
    structuralFaults (m.checkStructure default) = m.checkStructure default := by
  unfold checkStructure
  simp only [structuralFaults_append, structuralFaults_flatMap, structuralFaults_checkEnds,
    structuralFaults_checkRowFile]
  -- None of the three kinds of reports that are left speaks of columns.
  rw [structuralFaults_map_eq_self fun _ => rfl, structuralFaults_map_eq_self fun _ => rfl,
    structuralFaults_map_eq_self fun _ => rfl]

/-- What is found at the end of a relationship lies in its row file. -/
theorem structuralFaults_checkEndColumns (r : Relationship) (plan : EndpointPlan)
    (columns : List String) (default : String) (e : Endpoint) (n : Node) :
    structuralFaults (checkEndColumns r plan columns default e n) = [] := by
  unfold checkEndColumns
  split
  · rfl
  · exact structuralFaults_map_eq_nil fun _ => rfl

/-- The check of the endpoints looks at nothing but files. -/
theorem structuralFaults_checkEndpoints (m : Model) (files : SourceFiles) (default : String)
    (r : Relationship) : structuralFaults (m.checkEndpoints files default r) = [] := by
  unfold checkEndpoints
  split
  · rename_i source target _ _
    -- There are reports only if the columns of the row file are known, and they are about these.
    cases known : rowColumns files (r.plan source target default) with
    | none => simp only [known, structuralFaults_nil]
    | some columns =>
      simp only [known, structuralFaults_append, structuralFaults_checkEndColumns, List.append_nil]
  · rfl

/-- Apart from what the files lack, a model breaks the same rules with files and without. -/
theorem structuralFaults_faults (m : Model) (files : SourceFiles) (default : String) :
    structuralFaults (m.faults (some files) default) = m.faults none default := by
  -- The endpoints are checked last, and only if there are files.
  have endpoints : structuralFaults (m.relationships.flatMap (m.checkEndpoints files default)) =
      [] := by
    rw [structuralFaults_flatMap]
    exact List.flatMap_eq_nil_iff.mpr fun r _ => m.structuralFaults_checkEndpoints files default r
  simp only [faults, structuralFaults_append, endpoints, structuralFaults_checkStructure,
    structuralFaults_flatMap, Element.structuralFaults_check, List.append_nil]

/-- Faults of a kind that does not lie in the files are found with files as without. -/
theorem filter_faults_of_structural {kind : Fault → Bool}
    (structural : ∀ d, kind d = true → d.concernsColumns = false) (m : Model)
    (files : Option SourceFiles) (default : String) :
    (m.faults files default).filter kind = (m.faults none default).filter kind := by
  cases files with
  | none => rfl
  | some known =>
    -- What is found without files is what is structural of what is found with them.
    have within : ∀ d, kind d = true → (!d.concernsColumns) = true := by
      intro d sort
      rw [structural d sort, Bool.not_false]
    rw [← structuralFaults_faults m known default, structuralFaults, filter_filter_of_imp within]

end Model

end GraphLoad
