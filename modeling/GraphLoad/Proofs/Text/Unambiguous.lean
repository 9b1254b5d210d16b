import Mathlib.Data.List.Basic

/-! Texts that can be told apart and cut off from what follows them, alone and in lists. -/

namespace GraphLoad

variable {α : Type} {Holds : α → Prop} {Follows Stops : List Char → Prop}

/-- Texts of items are unambiguous before what follows when the whole tells both the item and what
follows it. -/
def Unambiguous (Holds : α → Prop) (Follows : List Char → Prop) (text : α → List Char) : Prop :=
  ∀ ⦃a b : α⦄ ⦃s t : List Char⦄, Holds a → Holds b → Follows s → Follows t →
    text a ++ s = text b ++ t → a = b ∧ s = t

/-- Texts that a reader takes back, and leaves what follows, are unambiguous. -/
theorem Unambiguous.of_read {β : Type} {text : α → List Char} {key : α → β}
    (read : List Char → Option (β × List Char)) (injective : ∀ a b, key a = key b → a = b)
    (reads : ∀ a s, Holds a → Follows s → read (text a ++ s) = some (key a, s)) :
    Unambiguous Holds Follows text := by
  intro a b s t first second before after same
  -- Both are what is read from one text.
  have read_a := reads a s first before
  have read_b := reads b t second after
  rw [same, read_b] at read_a
  obtain ⟨sameKey, sameRest⟩ := Prod.mk.inj (Option.some.inj read_a)
  exact ⟨injective a b sameKey.symm, sameRest.symm⟩

/-- Blocks and a stop at their end may follow a block, if each of them may. -/
theorem follows_flatMap {block : α → List Char} (opens : ∀ a s, Follows (block a ++ s))
    (items : List α) {s : List Char} (stop : Follows s) : Follows (items.flatMap block ++ s) := by
  -- The stop follows at once, or else another block does.
  cases items with
  | nil => exact stop
  | cons a items =>
    rw [List.flatMap_cons, List.append_assoc]
    exact opens a _

/-- Blocks that are unambiguous one by one are so as a list, if no block is mistaken for what stops
the list. -/
theorem Unambiguous.flatMap {block : α → List Char} (single : Unambiguous Holds Follows block)
    (opens : ∀ a s, Follows (block a ++ s)) (stops : ∀ s, Stops s → Follows s)
    (apart : ∀ a s t, Stops t → block a ++ s ≠ t) :
    Unambiguous (fun items : List α => ∀ a ∈ items, Holds a) Stops (·.flatMap block) := by
  -- A block is followed by the next one or by the stop, so each is cut off in turn.
  intro items
  induction items with
  | nil =>
    intro others s t _ _ before _ same
    cases others with
    | nil => exact ⟨rfl, same⟩
    | cons b others =>
      simp only [List.flatMap_cons, List.flatMap_nil, List.nil_append, List.append_assoc] at same
      -- No block starts like what stops the list.
      exact absurd same.symm (apart b _ s before)
  | cons a items ih =>
    intro others s t left right before after same
    cases others with
    | nil =>
      simp only [List.flatMap_cons, List.flatMap_nil, List.nil_append, List.append_assoc] at same
      exact absurd same (apart a _ t after)
    | cons b others =>
      simp only [List.flatMap_cons, List.append_assoc] at same
      obtain ⟨firstHolds, restHolds⟩ := List.forall_mem_cons.mp left
      obtain ⟨otherHolds, othersHold⟩ := List.forall_mem_cons.mp right
      obtain ⟨rfl, rest⟩ := single firstHolds otherHolds
        (follows_flatMap opens items (stops s before))
        (follows_flatMap opens others (stops t after)) same
      obtain ⟨rfl, rfl⟩ := ih restHolds othersHold before after rest
      exact ⟨rfl, rfl⟩

/-- Items joined by a separator are the first item and, for each other one, the separator and it. -/
theorem intercalate_cons_eq (separator first : List α) (others : List (List α)) :
    separator.intercalate (first :: others) = first ++ others.flatMap (separator ++ ·) := by
  induction others generalizing first with
  | nil => simp
  | cons next others ih =>
    rw [List.intercalate_cons_cons, ih, List.flatMap_cons, List.append_assoc, List.append_assoc]

/-- Items that are unambiguous one by one are so when they are joined, if the separator may follow
an item and is not mistaken for what stops the list. -/
theorem Unambiguous.intercalate {item : α → List Char} (single : Unambiguous Holds Follows item)
    (separator : List Char) (opens : ∀ s, Follows (separator ++ s))
    (stops : ∀ s, Stops s → Follows s) (apart : ∀ s t, Stops t → separator ++ s ≠ t) :
    Unambiguous (fun items : List α => items ≠ [] ∧ ∀ a ∈ items, Holds a) Stops
      fun items => separator.intercalate (items.map item) := by
  -- Behind the first item the list goes on in blocks that a separator opens.
  have next : ∀ a s, Follows ((separator ++ item a) ++ s) := by
    intro a s
    rw [List.append_assoc]
    exact opens _
  have block : Unambiguous Holds Follows fun a => separator ++ item a := by
    intro a b s t first second before after same
    rw [List.append_assoc, List.append_assoc] at same
    exact single first second before after (List.append_cancel_left same)
  have blocks := block.flatMap next stops fun a s t stop => by
    rw [List.append_assoc]
    exact apart _ t stop
  rintro items others s t ⟨present, left⟩ ⟨otherPresent, right⟩ before after same
  -- Both lists have a first item, which no separator opens.
  obtain ⟨a, items, rfl⟩ := List.exists_cons_of_ne_nil present
  obtain ⟨b, others, rfl⟩ := List.exists_cons_of_ne_nil otherPresent
  simp only [List.map_cons, intercalate_cons_eq, List.flatMap_map, List.append_assoc] at same
  obtain ⟨firstHolds, restHolds⟩ := List.forall_mem_cons.mp left
  obtain ⟨otherHolds, othersHold⟩ := List.forall_mem_cons.mp right
  obtain ⟨rfl, rest⟩ := single firstHolds otherHolds
    (follows_flatMap next items (stops s before))
    (follows_flatMap next others (stops t after)) same
  obtain ⟨rfl, rfl⟩ := blocks restHolds othersHold before after rest
  exact ⟨rfl, rfl⟩

end GraphLoad
