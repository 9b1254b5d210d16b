import GraphLoad.Schema.Versions
import Mathlib.Data.List.Basic

/-! Versions are only ever added: each keeps the number it was given, and numbers lead to the models
added, from either end. -/

namespace GraphLoad.Versions

/-- Adds models one after the other, and tells the number of each. -/
def addAll (v : Versions) : List Model → List Nat × Versions
  | [] => ([], v)
  | m :: rest =>
    let (number, next) := v.add m
    let (numbers, last) := next.addAll rest
    (number :: numbers, last)

/-- The versions once some models were added to none. -/
def ofModels (models : List Model) : Versions :=
  (addAll {} models).2

/-- What versions answer that hold some models, oldest first. -/
structure Holds (v : Versions) (models : List Model) : Prop where
  /-- They are as many as the models. -/
  size : v.size = models.length
  /-- Numbers from one on count from the oldest model. -/
  fromOldest : ∀ number : Int, 1 ≤ number → number ≤ models.length →
    ∃ m, models[(number - 1).toNat]? = some m ∧ v.get number = .ok m
  /-- Numbers from minus one down count from the newest model. -/
  fromNewest : ∀ number : Int, -models.length ≤ number → number ≤ -1 →
    ∃ m, models[(models.length + number).toNat]? = some m ∧ v.get number = .ok m
  /-- No other number leads to a model, however far off it is. -/
  outside : ∀ number : Int, number = 0 ∨ models.length < number ∨ number < -models.length →
    v.get number = .error (.noSuchVersion number models.length)
  /-- The newest model is the current one. -/
  current : models ≠ [] → v.current = v.get (-1)
  /-- Without models there is no current one. -/
  empty : models = [] → v.current = .error .emptyHistory
  /-- The models are gone through in the order they were added in. -/
  order : v.models = models

variable {v : Versions} {m : Model} {number : Int}

@[simp] theorem size_push (v : Versions) (m : Model) : (v.push m).size = v.size + 1 := by
  -- The model is put behind all others.
  simp [push, size]

/-- A number leads to the model at its place, if it has a place and there is a model. -/
theorem get_eq_ok_iff :
    v.get number = .ok m ↔ ∃ place, v.index? number = some place ∧ v.models[place]? = some m := by
  -- Either the place or the model may be missing, and both give the same error.
  unfold get
  cases placed : v.index? number with
  | none => simp
  | some place => cases found : v.models[place]? <;> simp [found]

/-- A number without a place, or with none that holds a model, is refused. -/
theorem get_eq_error (missing : ∀ place, v.index? number = some place → v.size ≤ place) :
    v.get number = .error (.noSuchVersion number v.size) := by
  unfold get
  cases placed : v.index? number with
  | none => rfl
  | some place =>
    -- The place lies behind the newest model.
    rw [Option.bind_some, List.getElem?_eq_none (missing place placed)]

/-- Positive numbers have their place one below. -/
theorem index?_of_positive (positive : 1 ≤ number) :
    v.index? number = some (number - 1).toNat := by
  -- A positive number is the successor of its place.
  obtain ⟨place, rfl⟩ : ∃ place : Nat, number = Int.ofNat (place + 1) :=
    ⟨(number - 1).toNat, by simp only [Int.ofNat_eq_natCast]; omega⟩
  have same : (Int.ofNat (place + 1) - 1).toNat = place := by
    simp only [Int.ofNat_eq_natCast]
    omega
  rw [same]
  rfl

/-- Negative numbers down to the oldest model have their place that far in front of the end. -/
theorem index?_of_negative (within : -v.size ≤ number) (negative : number ≤ -1) :
    v.index? number = some (v.size + number).toNat := by
  -- The number is the negative of the successor of how far the newest model is behind.
  obtain ⟨back, rfl⟩ : ∃ back : Nat, number = Int.negSucc back :=
    ⟨(-number - 1).toNat, by omega⟩
  have near : back < v.size := by omega
  rw [index?, if_pos near, Option.some.injEq]
  omega

/-- Numbers beyond the oldest model have no place. -/
theorem index?_of_far (far : number < -v.size) : v.index? number = none := by
  -- Only negative numbers are that small.
  obtain ⟨back, rfl⟩ : ∃ back : Nat, number = Int.negSucc back :=
    ⟨(-number - 1).toNat, by omega⟩
  have away : ¬back < v.size := by omega
  rw [index?, if_neg away]

/-- Versions answer as the models they hold have it. -/
theorem holds_models (v : Versions) : v.Holds v.models := by
  -- A place below the size holds a model, so that only the places are in question.
  have found : ∀ place < v.size, ∃ m, v.models[place]? = some m := fun place within =>
    ⟨v.models.get ⟨place, within⟩, List.getElem?_eq_getElem within⟩
  refine ⟨rfl, ?_, ?_, ?_, ?_, ?_, rfl⟩
  · intro number positive within
    change number ≤ v.size at within
    obtain ⟨m, there⟩ := found (number - 1).toNat (by omega)
    exact ⟨m, there, get_eq_ok_iff.mpr ⟨_, index?_of_positive positive, there⟩⟩
  · intro number within negative
    change -v.size ≤ number at within
    obtain ⟨m, there⟩ := found (v.size + number).toNat (by omega)
    exact ⟨m, there, get_eq_ok_iff.mpr ⟨_, index?_of_negative within negative, there⟩⟩
  · intro number outside
    change number = 0 ∨ v.size < number ∨ number < -v.size at outside
    apply get_eq_error
    intro place placed
    -- Zero and the numbers too far back have no place, and too large ones have it behind the end.
    rcases outside with zero | large | small
    · subst zero
      cases placed
    · rw [index?_of_positive (by omega), Option.some.injEq] at placed
      omega
    · rw [index?_of_far small] at placed
      cases placed
  · intro present
    -- The last model is the one a single place in front of the end.
    have some_ : 0 < v.size := List.length_pos_iff.mpr present
    obtain ⟨m, there⟩ := found (v.size - 1) (by omega)
    have last : v.models.getLast? = some m := by
      rw [List.getLast?_eq_getElem?]
      exact there
    have place : (v.size + (-1 : Int)).toNat = v.size - 1 := by omega
    have read : v.get (-1) = .ok m := get_eq_ok_iff.mpr
      ⟨v.size - 1, by rw [index?_of_negative (by omega) (by omega), place], there⟩
    rw [current, last, read]
  · intro none_
    rw [current, none_]
    rfl

/-- Another model leaves what positive numbers lead to as it is. -/
theorem get_push (positive : 0 < number) (readable : v.get number = .ok m) (next : Model) :
    (v.push next).get number = .ok m := by
  -- The place does not depend on the end, and the model at it stays in front of the new one.
  obtain ⟨place, placed, there⟩ := get_eq_ok_iff.mp readable
  rw [index?_of_positive (by omega)] at placed
  have within : place < v.models.length := (List.getElem?_eq_some_iff.mp there).1
  refine get_eq_ok_iff.mpr ⟨place, by rw [index?_of_positive (by omega), placed], ?_⟩
  rw [push, List.getElem?_append_left within]
  exact there

/-- However many models are added, what positive numbers lead to stays as it is. -/
theorem get_addAll (positive : 0 < number) (models : List Model)
    (readable : v.get number = .ok m) : (v.addAll models).2.get number = .ok m := by
  -- Each addition keeps it, so the whole run does.
  induction models generalizing v with
  | nil => exact readable
  | cons next rest ih => exact ih (get_push positive readable next)

/-- Models added one after the other stand behind the models that were there. -/
theorem models_addAll (v : Versions) (models : List Model) :
    (v.addAll models).2.models = v.models ++ models := by
  -- The first of them is put at the end, and the others behind it.
  induction models generalizing v with
  | nil => simp [addAll]
  | cons m rest ih =>
    have others := ih (v.push m)
    rw [push, List.append_assoc] at others
    exact others

/-- Models added one after the other are given the numbers that follow the size. -/
theorem numbers_addAll (v : Versions) (models : List Model) :
    (v.addAll models).1 = List.range' (v.size + 1) models.length := by
  -- Each number is the size that its model brings the versions to.
  induction models generalizing v with
  | nil => rfl
  | cons m rest ih =>
    have others := ih (v.push m)
    rw [size_push] at others
    change (v.push m).size :: ((v.push m).addAll rest).1 = _
    rw [size_push, others, List.length_cons, List.range'_succ]

/-- A run may be cut in two. -/
theorem addAll_append (v : Versions) (earlier later : List Model) :
    (v.addAll (earlier ++ later)).2 = ((v.addAll earlier).2.addAll later).2 := by
  induction earlier generalizing v with
  | nil => rfl
  | cons m rest ih => exact ih (v.push m)

/-- Models added to an empty history are numbered from one on, and the history answers as the list
of them does. A positive number that led to a model on the way still leads to it. -/
theorem history_append_only (models : List Model) :
    (addAll {} models).1 = List.range' 1 models.length ∧
      (ofModels models).Holds models ∧
      ∀ earlier, earlier <+: models → ∀ number : Int, 0 < number → ∀ m,
        (ofModels earlier).get number = .ok m → (ofModels models).get number = .ok m := by
  refine ⟨numbers_addAll {} models, ?_, ?_⟩
  · -- Nothing was there before, so the models are all there are.
    have held := holds_models (ofModels models)
    have same : (ofModels models).models = models := models_addAll {} models
    rw [same] at held
    exact held
  · intro earlier front number positive m readable
    -- What follows the earlier models is a run of its own, from where they led.
    obtain ⟨later, rfl⟩ := front
    have whole : ofModels (earlier ++ later) = ((ofModels earlier).addAll later).2 :=
      addAll_append {} earlier later
    rw [whole]
    exact get_addAll positive later readable

/-- The smallest number of a machine leads nowhere, like any that is too far back. -/
example : (ofModels [{}, {}]).get Int64.minValue.toInt =
    .error (.noSuchVersion (-9223372036854775808) 2) := by
  decide

end GraphLoad.Versions
