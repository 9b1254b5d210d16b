import GraphLoad.Schema.Check
import Mathlib.Data.Finset.Insert
import Mathlib.Data.List.Nodup

/-! The items that a list repeats: those that occur at least twice, each once, in the order of their
second occurrences. -/

namespace GraphLoad

variable {α : Type} [BEq α]

/-- The second occurrence of an item in a list stands at a place: the item stands there, and once in
front of it. -/
def SecondAt (items : List α) (item : α) (place : Nat) : Prop :=
  items[place]? = some item ∧ (items.take place).count item = 1

/-- A list names the items that another one repeats. -/
structure NamesRepeats (items found : List α) : Prop where
  /-- No item is named twice. -/
  once : found.Nodup
  /-- Those items are named that occur at least twice. -/
  repeated : ∀ item, item ∈ found ↔ 2 ≤ items.count item
  /-- Items are named in the order of their second occurrences. -/
  ordered : found.Pairwise fun earlier later =>
    ∃ i j, SecondAt items earlier i ∧ SecondAt items later j ∧ i < j

/-- A set holds the items that occur in a list a number of times at least. -/
def HoldsFrom (times : Nat) (known : Finset α) (items : List α) : Prop :=
  ∀ item, item ∈ known ↔ times ≤ items.count item

/-- What a walk over a list reports when it keeps two sets, of the items that came before and of
those reported: an item that came before is reported unless it was already. -/
def repeatsBySets [DecidableEq α] (before reported : Finset α) : List α → List α
  | [] => []
  | item :: rest =>
    if item ∉ before then repeatsBySets (insert item before) reported rest
    else if item ∉ reported then item :: repeatsBySets before (insert item reported) rest
    else repeatsBySets before reported rest

/-- An item that is reported has its second occurrence among the items still to come. -/
theorem exists_secondAt_of_mem_go {item : α} (seen items : List α)
    (reported : item ∈ repeats.go seen items) :
    ∃ place, seen.length ≤ place ∧ SecondAt (seen.reverse ++ items) item place := by
  -- All that is seen or still to come is one list, and its places do not move during the walk.
  induction items generalizing seen with
  | nil => cases reported
  | cons head rest ih =>
    have later : item ∈ repeats.go (head :: seen) rest →
        ∃ place, seen.length ≤ place ∧ SecondAt (seen.reverse ++ head :: rest) item place := by
      intro among
      obtain ⟨place, bound, second⟩ := ih (head :: seen) among
      rw [List.reverse_cons, List.append_assoc, List.singleton_append] at second
      exact ⟨place, Nat.le_of_succ_le bound, second⟩
    rw [repeats.go] at reported
    split at reported
    · rename_i second
      rcases List.mem_cons.mp reported with rfl | among
      · -- This item was seen once, and what was seen is all that stands in front.
        exact ⟨seen.length, Nat.le_refl _, by simp, by simp [second]⟩
      · exact later among
    · exact later reported

/-- Items are reported in the order of their second occurrences. -/
theorem ordered_repeats_go (seen items : List α) :
    (repeats.go seen items).Pairwise fun earlier later =>
      ∃ i j, SecondAt (seen.reverse ++ items) earlier i ∧
        SecondAt (seen.reverse ++ items) later j ∧ i < j := by
  induction items generalizing seen with
  | nil => exact .nil
  | cons head rest ih =>
    have whole : (head :: seen).reverse ++ rest = seen.reverse ++ head :: rest := by simp
    have ordered := ih (head :: seen)
    rw [whole] at ordered
    rw [repeats.go]
    split
    · rename_i second
      refine List.pairwise_cons.mpr ⟨fun later among => ?_, ordered⟩
      -- The head has its second occurrence here, and what is reported later has it further on.
      obtain ⟨place, bound, secondLater⟩ := exists_secondAt_of_mem_go (head :: seen) rest among
      rw [whole] at secondLater
      exact ⟨seen.length, place, ⟨by simp, by simp [second]⟩, secondLater, bound⟩
    · exact ordered

variable [LawfulBEq α] {item : α} {items : List α}

/-- An item still to come is reported when one of it came before, or when it comes twice. -/
theorem mem_repeats_go_iff (seen items : List α) :
    item ∈ repeats.go seen items ↔
      seen.count item ≤ 1 ∧ 2 ≤ seen.count item + items.count item := by
  -- Every step moves one item from the list to those seen, so the sum of the counts stays.
  induction items generalizing seen with
  | nil => simp only [repeats.go, List.not_mem_nil, List.count_nil, false_iff]; omega
  | cons head rest ih =>
    have moved := ih (head :: seen)
    simp only [List.count_cons] at moved ⊢
    by_cases same : head = item
    · subst same
      simp only [repeats.go, beq_self_eq_true, if_true] at moved ⊢
      split
      · rename_i second
        simp only [List.mem_cons, true_or, true_iff]
        omega
      · rw [moved]
        omega
    · -- Other items do not change what is counted of this one.
      have other : (head == item) = false := beq_false_of_ne same
      simp only [repeats.go, other, Bool.false_eq_true, if_false, Nat.add_zero] at moved ⊢
      split
      · rw [List.mem_cons, moved]
        simp only [Ne.symm same, false_or]
      · exact moved

/-- An item is reported exactly when it occurs more than once. -/
theorem mem_repeats_iff : item ∈ repeats items ↔ 2 ≤ items.count item := by
  -- Nothing was seen at the start.
  simp [repeats, mem_repeats_go_iff]

/-- Nothing is reported exactly when the items are distinct. -/
theorem repeats_eq_nil_iff : repeats items = [] ↔ items.Nodup := by
  -- Both sides bound the count of every item by one.
  rw [List.eq_nil_iff_forall_not_mem, List.nodup_iff_count_le_one]
  simp only [mem_repeats_iff, Nat.not_le]
  exact forall_congr' fun item => Nat.lt_succ_iff

/-- Each item is reported once at most. -/
theorem nodup_repeats_go (seen items : List α) : (repeats.go seen items).Nodup := by
  induction items generalizing seen with
  | nil => exact List.nodup_nil
  | cons head rest ih =>
    rw [repeats.go]
    split
    · rename_i second
      -- An item that was seen twice is not reported again.
      refine List.nodup_cons.mpr ⟨fun again => ?_, ih (head :: seen)⟩
      have bounded := ((mem_repeats_go_iff (head :: seen) rest).mp again).1
      rw [List.count_cons_self, second] at bounded
      omega
    · exact ih (head :: seen)

/-- Nothing is reported twice. -/
theorem nodup_repeats (items : List α) : (repeats items).Nodup :=
  nodup_repeats_go [] items

/-- Items in another order have the same repeats, in some order. -/
theorem perm_repeats {first second : List α} (same : first.Perm second) :
    (repeats first).Perm (repeats second) := by
  rw [List.perm_ext_iff_of_nodup (nodup_repeats first) (nodup_repeats second)]
  intro item
  rw [mem_repeats_iff, mem_repeats_iff, same.count_eq]

/-- Behind its second occurrence, an item is seen twice at least. -/
theorem SecondAt.two_le_count_take {i j : Nat} (second : SecondAt items item i) (behind : i < j) :
    2 ≤ (items.take j).count item := by
  obtain ⟨here, before⟩ := second
  -- The two are the one in front and the one at the place itself.
  have seen : (items.take (i + 1)).count item = 2 := by
    rw [List.take_add_one, here, List.count_append, before]
    simp
  calc
    2 = (items.take (i + 1)).count item := seen.symm
    _ ≤ (items.take j).count item :=
      (List.take_prefix_take_left (Nat.succ_le_of_lt behind)).sublist.count_le item

/-- There is one second occurrence at most. -/
theorem SecondAt.unique {i j : Nat} (first : SecondAt items item i)
    (other : SecondAt items item j) : i = j := by
  -- In front of the later one of two, the item would stand twice.
  rcases Nat.lt_trichotomy i j with before | same | after
  · have twice := first.two_le_count_take before
    have once := other.2
    omega
  · exact same
  · have twice := other.two_le_count_take after
    have once := first.2
    omega

/-- The items reported are those that the list repeats. -/
theorem namesRepeats_repeats (items : List α) : NamesRepeats items (repeats items) where
  once := nodup_repeats items
  repeated _ := mem_repeats_iff
  ordered := ordered_repeats_go [] items

/-- No other list names them, since what is named in which order is settled. -/
theorem namesRepeats_iff {found : List α} : NamesRepeats items found ↔ found = repeats items := by
  constructor
  · intro named
    have reported := namesRepeats_repeats items
    have same : found.Perm (repeats items) := by
      rw [List.perm_ext_iff_of_nodup named.once reported.once]
      intro item
      rw [named.repeated, reported.repeated]
    refine List.Perm.eq_of_pairwise ?_ named.ordered reported.ordered same
    -- Second occurrences are unique, so no two items come one before the other both ways.
    rintro a b - - ⟨i, j, first, second, before⟩ ⟨k, l, other, again, after⟩
    have atSecond := second.unique other
    have atFirst := first.unique again
    omega
  · rintro rfl
    exact namesRepeats_repeats items

section Sets

variable {times : Nat} {known : Finset α} {seen : List α}

/-- A set takes in the item that comes next, where its occurrences are enough then. -/
theorem HoldsFrom.take_in [DecidableEq α] (holds : HoldsFrom times known seen)
    (reached : times ≤ seen.count item + 1) :
    HoldsFrom times (insert item known) (item :: seen) := by
  -- Only the count of the item itself moves.
  intro other
  rw [Finset.mem_insert, holds other, List.count_cons]
  by_cases same : other = item
  · subst same
    simpa using reached
  · simp [same, Ne.symm same]

/-- A set stays as it is, unless the occurrences of the item that comes next become enough. -/
theorem HoldsFrom.keep (holds : HoldsFrom times known seen)
    (apart : seen.count item + 1 ≠ times) : HoldsFrom times known (item :: seen) := by
  intro other
  rw [holds other, List.count_cons]
  by_cases same : other = item
  · -- They were enough before, or are not yet.
    subst same
    rw [if_pos (beq_self_eq_true other)]
    omega
  · simp [Ne.symm same]

/-- Counting finds what two sets find that hold what came once and what came twice. -/
theorem repeats_go_eq_repeatsBySets [DecidableEq α] {before reported : Finset α}
    (once : HoldsFrom 1 before seen) (twice : HoldsFrom 2 reported seen) (items : List α) :
    repeats.go seen items = repeatsBySets before reported items := by
  induction items generalizing seen before reported with
  | nil => rfl
  | cons head rest ih =>
    rw [repeats.go, repeatsBySets]
    -- A first occurrence goes to the one set, a second one to the other, and all others to neither.
    rcases (by omega : seen.count head = 0 ∨ seen.count head = 1 ∨ 2 ≤ seen.count head) with
      none_ | single | several
    · have fresh : head ∉ before := by
        rw [once head]
        omega
      rw [if_neg (by omega), if_pos fresh]
      exact ih (once.take_in (by omega)) (twice.keep (by omega))
    · have came : head ∈ before := (once head).mpr (by omega)
      have unreported : head ∉ reported := by
        rw [twice head]
        omega
      rw [if_pos single, if_neg (not_not.mpr came), if_pos unreported]
      exact congrArg _ (ih (once.keep (by omega)) (twice.take_in (by omega)))
    · have came : head ∈ before := (once head).mpr (by omega)
      have told : head ∈ reported := (twice head).mpr several
      rw [if_neg (by omega), if_neg (not_not.mpr came), if_neg (not_not.mpr told)]
      exact ih (once.keep (by omega)) (twice.keep (by omega))

end Sets

/-- The repeats are what two sets find that are empty at the start. -/
theorem repeats_eq_repeatsBySets [DecidableEq α] (items : List α) :
    repeats items = repeatsBySets ∅ ∅ items := by
  -- Nothing came yet, neither once nor twice.
  apply repeats_go_eq_repeatsBySets <;> simp [HoldsFrom]

/-- A third occurrence changes nothing, and the first occurrences do not set the order. -/
example : repeats ["b", "a", "c", "a", "a", "b"] = ["a", "b"] := by decide

end GraphLoad
