import Mathlib.Data.List.Forall2

/-! Work over a list that may fail: what the outcome of the whole says about the single items. -/

namespace GraphLoad

variable {α β ε : Type} {f : α → Except ε β}

/-- A bind succeeds exactly when both of its steps do. -/
theorem bind_eq_ok_iff {γ : Type} {x : Except ε β} {next : β → Except ε γ} {z : γ} :
    (x >>= next) = .ok z ↔ ∃ y, x = .ok y ∧ next y = .ok z := by
  cases x with
  | error e => simp [Bind.bind, Except.bind]
  | ok y => simp [Bind.bind, Except.bind]

/-- A bind fails exactly as its first step does, or as the second where the first succeeds. -/
theorem bind_eq_error_iff {γ : Type} {x : Except ε β} {next : β → Except ε γ} {e : ε} :
    (x >>= next) = .error e ↔ x = .error e ∨ ∃ y, x = .ok y ∧ next y = .error e := by
  cases x with
  | error e => simp [Bind.bind, Except.bind]
  | ok y => simp [Bind.bind, Except.bind]

/-- A result is changed exactly where there is one. -/
theorem map_eq_ok_iff {γ : Type} {x : Except ε β} {change : β → γ} {z : γ} :
    x.map change = .ok z ↔ ∃ y, x = .ok y ∧ change y = z := by
  cases x <;> simp [Except.map]

/-- The work on a list succeeds exactly when each item yields the result at its place. -/
theorem mapM_eq_ok_iff {xs : List α} {ys : List β} :
    xs.mapM f = .ok ys ↔ List.Forall₂ (fun x y => f x = .ok y) xs ys := by
  -- The first item yields the first result, and the rest of the work yields the others.
  induction xs generalizing ys with
  | nil => simp [Pure.pure, Except.pure, List.forall₂_nil_left_iff, eq_comm]
  | cons x xs ih =>
    simp only [List.mapM_cons, bind_eq_ok_iff, List.forall₂_cons_left_iff, Pure.pure,
      Except.pure, Except.ok.injEq]
    constructor
    · rintro ⟨y, first, rest, others, rfl⟩
      exact ⟨y, rest, first, ih.mp others, rfl⟩
    · rintro ⟨y, rest, first, others, rfl⟩
      exact ⟨y, first, rest, ih.mpr others, rfl⟩

/-- Work that succeeds on every item succeeds on the list. -/
theorem mapM_ok_of_forall {xs : List α} (each : ∀ x ∈ xs, ∃ y, f x = .ok y) :
    ∃ ys, xs.mapM f = .ok ys := by
  -- Results are collected item by item, and no item stops the work.
  induction xs with
  | nil => exact ⟨[], rfl⟩
  | cons x xs ih =>
    obtain ⟨y, first⟩ := each x List.mem_cons_self
    obtain ⟨ys, rest⟩ := ih fun other member => each other (List.mem_cons_of_mem x member)
    exact ⟨y :: ys, mapM_eq_ok_iff.mpr (.cons first (mapM_eq_ok_iff.mp rest))⟩

/-- A property of the items of one list carries over to a list of related items. -/
theorem forall_mem_iff_of_forall₂ {R : α → β → Prop} {P : α → Prop} {Q : β → Prop}
    {xs : List α} {ys : List β} (related : List.Forall₂ R xs ys)
    (same : ∀ x y, R x y → (P x ↔ Q y)) : (∀ x ∈ xs, P x) ↔ ∀ y ∈ ys, Q y := by
  -- Related lists are equally long, and related items stand at the same place.
  induction related with
  | nil => simp
  | cons first _ ih => rw [List.forall_mem_cons, List.forall_mem_cons, same _ _ first, ih]

/-- Related lists are mapped to the same list if related items are mapped to the same item. -/
theorem map_eq_map_of_forall₂ {γ : Type} {R : α → β → Prop} {left : α → γ} {right : β → γ}
    {xs : List α} {ys : List β} (related : List.Forall₂ R xs ys)
    (same : ∀ x y, R x y → left x = right y) : xs.map left = ys.map right := by
  induction related with
  | nil => rfl
  | cons first _ ih => rw [List.map_cons, List.map_cons, same _ _ first, ih]

/-- What holds of each result that an item may yield holds of all results. -/
theorem forall_mem_of_mapM {Q : β → Prop} {xs : List α} {ys : List β} (done : xs.mapM f = .ok ys)
    (each : ∀ x y, f x = .ok y → Q y) : ∀ y ∈ ys, Q y := by
  have results := (mapM_eq_ok_iff.mp done).imp each
  exact (forall_mem_iff_of_forall₂ (P := fun _ => True) results fun _ _ held =>
    iff_of_true trivial held).mp fun _ _ => trivial

/-- Work on a list has a result for each item. -/
theorem exists_mem_of_mapM {xs : List α} {ys : List β} (done : xs.mapM f = .ok ys) {x : α}
    (member : x ∈ xs) : ∃ y ∈ ys, f x = .ok y := by
  -- An item and its result stand at the same place.
  have results := mapM_eq_ok_iff.mp done
  clear done
  induction results with
  | nil => cases member
  | cons first _ ih =>
    rcases List.mem_cons.mp member with rfl | later
    · exact ⟨_, List.mem_cons_self, first⟩
    · obtain ⟨y, present, result⟩ := ih later
      exact ⟨y, List.mem_cons_of_mem _ present, result⟩

/-- Work on changed items ends as the work on the items themselves, apart from a change of results,
if it does so item by item. -/
theorem mapM_eq_map_of_forall {γ δ : Type} {change : α → γ} {g : γ → Except ε δ} {move : β → δ}
    {xs : List α} (each : ∀ x ∈ xs, g (change x) = (f x).map move) :
    (xs.map change).mapM g = (xs.mapM f).map (List.map move) := by
  -- The first item that fails does so in both lists, and for one reason.
  induction xs with
  | nil => rfl
  | cons x xs ih =>
    have first := each x List.mem_cons_self
    have rest := ih fun other member => each other (List.mem_cons_of_mem x member)
    rw [List.map_cons, List.mapM_cons, List.mapM_cons, first, rest]
    cases f x with
    | error reason => rfl
    | ok y =>
      cases xs.mapM f with
      | error reason => rfl
      | ok ys => rfl

/-- Work on a list fails as it does on the first of the items that it fails on. -/
theorem mapM_eq_error_of_first {before after : List α} {x : α} {reason : ε}
    (passed : ∀ other ∈ before, ∃ y, f other = .ok y) (raised : f x = .error reason) :
    (before ++ x :: after).mapM f = .error reason := by
  obtain ⟨ys, done⟩ := mapM_ok_of_forall passed
  rw [List.mapM_append, done, List.mapM_cons, raised]
  rfl

end GraphLoad
