import GraphLoad.Proofs.Traversal
import Mathlib.Data.List.Perm.Basic

/-! Lists whose items are taken in another order, which is given by positions, so that one order can
be applied to several lists. -/

namespace GraphLoad

/-- The items of a list at the positions of an order. -/
def rearrange {α : Type} (order : List Nat) (xs : List α) : List α :=
  order.filterMap (xs[·]?)

/-- An order takes each position of a list once. -/
def IsOrder {α : Type} (order : List Nat) (xs : List α) : Prop :=
  order.Perm (List.range xs.length)

instance {α : Type} (order : List Nat) (xs : List α) : Decidable (IsOrder order xs) :=
  inferInstanceAs (Decidable (order.Perm (List.range xs.length)))

variable {α β : Type}

/-- Items found at the positions of an order, one by one, are the list in this order. -/
theorem rearrange_of_forall₂ {xs ys : List α} {order : List Nat}
    (found : List.Forall₂ (fun y i => xs[i]? = some y) ys order) : rearrange order xs = ys := by
  -- One position at a time, each of which finds its item.
  induction found with
  | nil => rfl
  | cons first _ ih =>
    rw [rearrange, List.filterMap_cons_some first]
    exact congrArg _ ih

/-- Each item of a list is found at its own position. -/
theorem forall₂_range (xs : List α) :
    List.Forall₂ (fun x i => xs[i]? = some x) xs (List.range xs.length) := by
  rw [List.forall₂_iff_get]
  refine ⟨by simp, fun i first second => ?_⟩
  simp

/-- The permutations of a list are the list in its orders. -/
theorem perm_iff_exists_rearrange {xs ys : List α} :
    ys.Perm xs ↔ ∃ order, IsOrder order xs ∧ rearrange order xs = ys := by
  constructor
  · intro permuted
    -- The permutation takes the position of each item along.
    obtain ⟨order, found, taken⟩ := List.perm_comp_forall₂ permuted (forall₂_range xs)
    exact ⟨order, taken, rearrange_of_forall₂ found⟩
  · rintro ⟨order, taken, rfl⟩
    have same : (rearrange order xs).Perm (rearrange (List.range xs.length) xs) :=
      taken.filterMap _
    rwa [rearrange_of_forall₂ (forall₂_range xs)] at same

/-- Changing the items does not interfere with their order. -/
theorem rearrange_map (f : α → β) (order : List Nat) (xs : List α) :
    rearrange order (xs.map f) = (rearrange order xs).map f := by
  unfold rearrange
  simp only [List.getElem?_map, List.map_filterMap]

/-- Items of two lists that are related place by place stay so in another order. -/
theorem forall₂_rearrange {R : α → β → Prop} {xs : List α} {ys : List β}
    (related : List.Forall₂ R xs ys) (order : List Nat) :
    List.Forall₂ R (rearrange order xs) (rearrange order ys) := by
  -- A position leads to related items, or beyond the end of both lists.
  have lookedUp : ∀ i : Nat, (xs[i]? = none ∧ ys[i]? = none) ∨
      ∃ x y, xs[i]? = some x ∧ ys[i]? = some y ∧ R x y := by
    induction related with
    | nil => exact fun _ => .inl ⟨rfl, rfl⟩
    | cons first _ ih =>
      intro i
      cases i with
      | zero => exact .inr ⟨_, _, rfl, rfl, first⟩
      | succ i => exact ih i
  -- Positions beyond the end are passed over on both sides.
  induction order with
  | nil => exact .nil
  | cons i order ih =>
    rcases lookedUp i with ⟨beyond, alsoBeyond⟩ | ⟨x, y, atX, atY, both⟩
    · rw [rearrange, rearrange, List.filterMap_cons_none beyond,
        List.filterMap_cons_none alsoBeyond]
      exact ih
    · rw [rearrange, rearrange, List.filterMap_cons_some atX, List.filterMap_cons_some atY]
      exact .cons both ih

/-- Work on a list in another order yields the results in this order. -/
theorem mapM_rearrange {ε : Type} {f : α → Except ε β} {xs : List α} {ys : List β}
    (done : xs.mapM f = .ok ys) (order : List Nat) :
    (rearrange order xs).mapM f = .ok (rearrange order ys) :=
  mapM_eq_ok_iff.mpr (forall₂_rearrange (mapM_eq_ok_iff.mp done) order)

end GraphLoad
