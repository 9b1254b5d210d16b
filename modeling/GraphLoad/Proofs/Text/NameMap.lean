import GraphLoad.Text.NameMap
import Mathlib.Data.List.Basic
import Mathlib.Data.List.Induction

/-! Maps from names: what a write changes, what a run of writes leaves, when two maps are one. -/

namespace GraphLoad

variable {α : Type}

/-- A value is the last one that a list of pairs has for a name. -/
def LastFor (pairs : List (String × α)) (name : String) (value : α) : Prop :=
  ∃ front back, pairs = front ++ (name, value) :: back ∧ ∀ later ∈ back, later.1 ≠ name

/-- A list with one more item at its end is split at an item: at the new one, with nothing behind
it, or at an item from before, with the new one at the end of what is behind. -/
theorem append_singleton_eq_split_iff {items front back : List α} {new item : α} :
    items ++ [new] = front ++ item :: back ↔
      (items = front ∧ new = item ∧ back = []) ∨
        ∃ behind, back = behind ++ [new] ∧ items = front ++ item :: behind := by
  constructor
  · intro split
    -- Nothing stands behind the item, or what does ends with the new one.
    rcases List.eq_nil_or_concat' back with rfl | ⟨behind, last, rfl⟩
    · obtain ⟨whole, same⟩ := List.append_inj' split rfl
      exact .inl ⟨whole, (List.cons.inj same).1, rfl⟩
    · rw [← List.cons_append, ← List.append_assoc] at split
      obtain ⟨whole, same⟩ := List.append_inj' split rfl
      obtain rfl := (List.cons.inj same).1
      exact .inr ⟨behind, rfl, whole⟩
  · rintro (⟨rfl, rfl, rfl⟩ | ⟨behind, rfl, rfl⟩)
    · rfl
    · simp

/-- Behind one more pair, the last value for a name is the value of that pair, or else the one from
before. -/
theorem lastFor_append_singleton {pairs : List (String × α)} {pair : String × α} {name : String}
    {value : α} :
    LastFor (pairs ++ [pair]) name value ↔
      if pair.1 = name then pair.2 = value else LastFor pairs name value := by
  obtain ⟨written, new⟩ := pair
  constructor
  · rintro ⟨front, back, split, others⟩
    rcases append_singleton_eq_split_iff.mp split with ⟨-, same, -⟩ | ⟨behind, rfl, whole⟩
    · obtain ⟨rfl, rfl⟩ := Prod.mk.inj same
      simp
    · -- The new pair comes behind the last one for the name, so it is for another.
      have other : written ≠ name := others (written, new) (by simp)
      rw [if_neg other]
      exact ⟨front, behind, whole, fun later member => others later (by simp [member])⟩
  · intro last
    split at last
    · rename_i same
      subst same last
      exact ⟨pairs, [], rfl, by simp⟩
    · rename_i other
      obtain ⟨front, back, rfl, others⟩ := last
      -- A pair for another name does not come in the way.
      refine ⟨front, back ++ [(written, new)], by simp, fun later member => ?_⟩
      rcases List.mem_append.mp member with earlier | new
      · exact others later earlier
      · rw [List.mem_singleton.mp new]
        exact other

namespace NameMap

variable {m n : NameMap α} {name other : String} {value new : α}

/-- An entry is found under its own name only. -/
theorem lookup_entry (present : String) (old : α) (rest : List (String × α)) (asked : String) :
    ((present, old) :: rest).lookup asked =
      if asked = present then some old else rest.lookup asked := by
  by_cases same : asked = present
  · simp [same]
  · simp [List.lookup_cons, beq_eq_false_iff_ne.mpr same, same]

@[simp] theorem get?_empty (name : String) : (∅ : NameMap α).get? name = none :=
  rfl

/-- A write is seen under its name, and under no other. -/
@[simp] theorem get?_insert (m : NameMap α) (name asked : String) (value : α) :
    (m.insert name value).get? asked = if asked = name then some value else m.get? asked := by
  show (insertEntry name value m.entries).lookup asked = if _ then _ else m.entries.lookup asked
  -- The walk passes only entries of other names before it puts the value in its place.
  induction m.entries with
  | nil => rw [insertEntry, lookup_entry]
  | cons head rest ih =>
    obtain ⟨present, old⟩ := head
    simp only [insertEntry]
    split
    · simp only [lookup_entry]
    · split
      · rename_i here
        subst here
        by_cases same : asked = name <;> simp [lookup_entry, same]
      · rename_i elsewhere
        -- The entry that is passed keeps its value, and the name is another one.
        by_cases same : asked = present
        · subst same
          simp [Ne.symm elsewhere]
        · simpa only [lookup_entry, same, if_false] using ih

/-- A run of writes leaves the last value that it has for a name, and otherwise what was there. -/
theorem get?_foldl_insert_eq_some_iff {pairs : List (String × α)} :
    (pairs.foldl (fun m pair => m.insert pair.1 pair.2) m).get? name = some value ↔
      LastFor pairs name value ∨ (∀ pair ∈ pairs, pair.1 ≠ name) ∧ m.get? name = some value := by
  -- The last pair decides, so the run is taken apart from its end.
  induction pairs using List.reverseRecOn with
  | nil => simp [LastFor]
  | append_singleton pairs pair ih =>
    rw [List.foldl_append, lastFor_append_singleton]
    by_cases same : pair.1 = name
    · have written : ¬∀ earlier ∈ pairs ++ [pair], earlier.1 ≠ name := fun others =>
        others pair (by simp) same
      simp only [List.foldl_cons, List.foldl_nil, get?_insert, same, if_true, Option.some.injEq,
        written, false_and, or_false]
    · have asked : name ≠ pair.1 := Ne.symm same
      simp [asked, same, ih, or_imp, forall_and]

/-- The names are those that a value is found under. -/
theorem mem_names_iff : name ∈ m.names ↔ ∃ value, m.get? name = some value := by
  rw [← Option.isSome_iff_exists, get?, List.lookup_isSome_iff]
  simp [names]

/-- Each name stands once, and in front of all greater ones. -/
theorem pairwise_names (m : NameMap α) : m.names.Pairwise (· < ·) :=
  List.pairwise_map.mpr m.increasing

/-- An entry is what is found under its name. -/
theorem mem_entries_iff : (name, value) ∈ m.entries ↔ m.get? name = some value := by
  rw [get?, List.lookup_eq_some_iff]
  constructor
  · intro member
    obtain ⟨front, back, split⟩ := List.append_of_mem member
    refine ⟨front, back, split, fun earlier before => ?_⟩
    -- Entries in front have smaller names, so that none of them is found first.
    have ordered := m.increasing
    rw [split, List.pairwise_append] at ordered
    have smaller := ordered.2.2 earlier before (name, value) List.mem_cons_self
    exact bne_iff_ne.mpr fun same => String.lt_irrefl _ (same ▸ smaller)
  · rintro ⟨front, back, split, -⟩
    simp [split]

/-- Maps are one if the same is found in both under every name. -/
theorem ext_get? (same : ∀ name, m.get? name = n.get? name) : m = n := by
  have distinct : ∀ m : NameMap α, m.entries.Nodup := by
    intro m
    refine m.increasing.imp ?_
    rintro entry _ less rfl
    exact String.lt_irrefl _ less
  -- The entries are the same, and their order leaves no choice.
  have entries : m.entries.Perm n.entries := by
    rw [List.perm_ext_iff_of_nodup (distinct m) (distinct n)]
    rintro ⟨name, value⟩
    rw [mem_entries_iff, mem_entries_iff, same]
  refine NameMap.ext (entries.eq_of_pairwise ?_ m.increasing n.increasing)
  intro first second _ _ less greater
  exact absurd (String.lt_trans less greater) (String.lt_irrefl _)

/-- An entry is the last one for its name, as it is the only one. -/
theorem lastFor_entries_iff : LastFor m.entries name value ↔ m.get? name = some value := by
  rw [← mem_entries_iff]
  constructor
  · rintro ⟨front, back, split, -⟩
    simp [split]
  · intro member
    obtain ⟨front, back, split⟩ := List.append_of_mem member
    refine ⟨front, back, split, fun later behind same => ?_⟩
    -- Entries behind have greater names.
    have ordered := m.increasing
    rw [split, List.pairwise_append, List.pairwise_cons] at ordered
    exact String.lt_irrefl _ (same ▸ ordered.2.1.1 later behind)

/-- A map is the map of its own entries. -/
theorem ofList_entries (m : NameMap α) : ofList m.entries = m := by
  apply ext_get?
  intro name
  apply Option.ext
  intro value
  -- Nothing is there before the entries are written.
  rw [ofList, get?_foldl_insert_eq_some_iff, lastFor_entries_iff]
  simp

/-- Writes under different names commute. -/
theorem insert_comm (m : NameMap α) (apart : name ≠ other) :
    (m.insert name value).insert other new = (m.insert other new).insert name value := by
  apply ext_get?
  intro asked
  -- At most one of the two names is asked for.
  by_cases first : asked = name
  · subst first
    simp [apart]
  · simp [first]

end NameMap

end GraphLoad
