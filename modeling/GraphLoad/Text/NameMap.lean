/-! Finite maps from names to values, kept in the order of the names' code points. -/

namespace GraphLoad

/-- Puts a value under a name into entries ordered by name; a value already there is replaced. -/
def insertEntry {α : Type} (name : String) (value : α) :
    List (String × α) → List (String × α)
  | [] => [(name, value)]
  | (other, old) :: rest =>
    if name < other then (name, value) :: (other, old) :: rest
    else if name = other then (name, value) :: rest
    else (other, old) :: insertEntry name value rest

/-- The names after an insertion are the old ones and the inserted one. -/
theorem fst_mem_insertEntry {α : Type} {name : String} {value : α}
    {entries : List (String × α)} {entry : String × α}
    (member : entry ∈ insertEntry name value entries) :
    entry.1 = name ∨ ∃ old ∈ entries, old.1 = entry.1 := by
  induction entries with
  | nil =>
    simp only [insertEntry, List.mem_singleton] at member
    exact .inl (by rw [member])
  | cons head rest ih =>
    obtain ⟨other, old⟩ := head
    simp only [insertEntry] at member
    -- The new entry goes in front of the head, takes its place, or goes further behind.
    split at member
    · rcases List.mem_cons.1 member with same | later
      · exact .inl (by rw [same])
      · exact .inr ⟨entry, later, rfl⟩
    · split at member
      · rcases List.mem_cons.1 member with same | later
        · exact .inl (by rw [same])
        · exact .inr ⟨entry, List.mem_cons_of_mem _ later, rfl⟩
      · rcases List.mem_cons.1 member with same | later
        · exact .inr ⟨entry, by rw [same]; exact List.mem_cons_self, rfl⟩
        · rcases ih later with named | ⟨found, within, equal⟩
          · exact .inl named
          · exact .inr ⟨found, List.mem_cons_of_mem _ within, equal⟩

/-- An insertion keeps the names strictly increasing. -/
theorem pairwise_insertEntry {α : Type} (name : String) (value : α)
    {entries : List (String × α)} (ordered : entries.Pairwise (·.1 < ·.1)) :
    (insertEntry name value entries).Pairwise (·.1 < ·.1) := by
  induction entries with
  | nil => simp [insertEntry]
  | cons head rest ih =>
    obtain ⟨other, old⟩ := head
    obtain ⟨below, tail⟩ := List.pairwise_cons.1 ordered
    simp only [insertEntry]
    -- The new name comes before that of the head, is the same, or belongs further behind.
    split
    · rename_i before
      refine List.pairwise_cons.2 ⟨?_, ordered⟩
      intro entry member
      rcases List.mem_cons.1 member with same | later
      · rw [same]; exact before
      · exact String.lt_trans before (below entry later)
    · rename_i notBefore
      split
      · rename_i same
        subst same
        exact List.pairwise_cons.2 ⟨below, tail⟩
      · rename_i different
        refine List.pairwise_cons.2 ⟨?_, ih tail⟩
        intro entry member
        rcases fst_mem_insertEntry member with named | ⟨found, within, equal⟩
        · -- A name that is neither smaller nor equal is greater.
          rw [named]
          refine Decidable.byContradiction fun notAfter => different ?_
          exact String.le_antisymm (String.not_lt.1 notAfter) (String.not_lt.1 notBefore)
        · rw [← equal]; exact below found within

/-- A finite map from names, with one entry a name. -/
@[ext] structure NameMap (α : Type) where
  /-- The names and their values. -/
  entries : List (String × α)
  /-- Names increase strictly from entry to entry. -/
  increasing : entries.Pairwise (·.1 < ·.1) := by simp
deriving DecidableEq, Repr

namespace NameMap

variable {α : Type}

/-- The map without entries. -/
def empty : NameMap α where
  entries := []

instance : EmptyCollection (NameMap α) := ⟨empty⟩

instance : Inhabited (NameMap α) := ⟨empty⟩

/-- Puts a value under a name, in place of the one already there. -/
def insert (m : NameMap α) (name : String) (value : α) : NameMap α where
  entries := insertEntry name value m.entries
  increasing := pairwise_insertEntry name value m.increasing

/-- The map of a list of pairs, where the last pair of a name counts. -/
def ofList (pairs : List (String × α)) : NameMap α :=
  pairs.foldl (fun m pair => m.insert pair.1 pair.2) ∅

/-- The value under a name. -/
def get? (m : NameMap α) (name : String) : Option α :=
  m.entries.lookup name

/-- The names in order. -/
def names (m : NameMap α) : List String :=
  m.entries.map Prod.fst

/-- The number of names. -/
def size (m : NameMap α) : Nat :=
  m.entries.length

end NameMap

end GraphLoad
