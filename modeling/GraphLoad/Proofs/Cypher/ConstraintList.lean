import GraphLoad.Cypher.Constraint
import GraphLoad.Proofs.Traversal
import Mathlib.Data.List.Induction
import Mathlib.Data.List.Nodup

/-! Deriving the constraints of elements: what is derived, and the one way left to fail. -/

namespace GraphLoad.Cypher

variable {α β : Type}

/-- There is a value, or else two constraints were given one name. -/
def OkOrCollision (outcome : Except CompileError α) : Prop :=
  (∃ value, outcome = .ok value) ∨
    ∃ name first second, outcome = .error (.nameCollision name first second)

/-- Two steps that fail by a collision at most do so together. -/
theorem OkOrCollision.bind {outcome : Except CompileError α} {next : α → Except CompileError β}
    (step : OkOrCollision outcome) (rest : ∀ value, OkOrCollision (next value)) :
    OkOrCollision (outcome >>= next) := by
  rcases step with ⟨value, rfl⟩ | ⟨name, first, second, rfl⟩
  · exact rest value
  · exact .inr ⟨name, first, second, rfl⟩

/-- A value is no failure. -/
theorem OkOrCollision.ok (value : α) : OkOrCollision (.ok value) :=
  .inl ⟨value, rfl⟩

/-- The constraints that an element asks for: one for each unique property in declared order, then
one for its key, if that has members. -/
def constraintsOf (e : Element) : List Constraint :=
  e.unique.map (fun p => .unique e.ref p.name)
    ++ if e.key = [] then [] else [.key e.ref (e.key.map Property.name)]

/-- The constraints of an element whose key does not have a single member. -/
theorem elementConstraints_eq {e : Element} (several : e.key.length ≠ 1) :
    elementConstraints e = .ok (constraintsOf e) := by
  unfold elementConstraints constraintsOf
  by_cases absent : e.key = []
  · simp [absent, Pure.pure, Except.pure]
  · -- A key that is there and has not one member has two at least.
    have positive : 0 < e.key.length := List.length_pos_iff.mpr absent
    have enough : ¬e.key.length < 2 := by omega
    simp [absent, keyConstraint, enough, Bind.bind, Except.bind, Pure.pure, Except.pure]

/-- Items of which two share a key start with items of distinct keys, behind which stands the second
of the first two that share one. -/
theorem exists_first_repeat (key : α → β) {items : List α} (repeated : ¬(items.map key).Nodup) :
    ∃ before first between second after, items = before ++ first :: between ++ second :: after ∧
      ((before ++ first :: between).map key).Nodup ∧ key second = key first := by
  -- The items are added at the end, and the first that is no longer new is the second of the two.
  induction items using List.reverseRecOn with
  | nil => exact absurd List.nodup_nil repeated
  | append_singleton items last ih =>
    by_cases distinct : (items.map key).Nodup
    · have old : key last ∈ items.map key := by
        by_contra fresh
        refine repeated ?_
        rw [List.map_append, List.map_singleton, List.nodup_append_comm]
        exact List.nodup_cons.mpr ⟨fresh, distinct⟩
      obtain ⟨first, member, same⟩ := List.mem_map.mp old
      obtain ⟨before, between, rfl⟩ := List.append_of_mem member
      exact ⟨before, first, between, last, [], rfl, distinct, same.symm⟩
    · obtain ⟨before, first, between, second, after, rfl, earliest, same⟩ := ih distinct
      exact ⟨before, first, between, second, after ++ [last], by simp, earliest, same⟩

/-- What has been seen behind some constraints: all of them under their names, latest first. -/
def seenBehind (constraints : List Constraint) : List (String × Constraint) :=
  (constraints.map fun c => (c.name, c)).reverse

/-- A name that no constraint has was not seen. -/
theorem lookup_seenBehind_of_fresh {constraints : List Constraint} {name : String}
    (fresh : name ∉ constraints.map Constraint.name) :
    (seenBehind constraints).lookup name = none := by
  rw [List.lookup_eq_none_iff]
  -- What was seen are constraints under their names.
  intro pair member
  obtain ⟨c, among, rfl⟩ := List.mem_map.mp (List.mem_reverse.mp member)
  rw [bne_iff_ne]
  rintro rfl
  exact fresh (List.mem_map_of_mem among)

/-- Under the name of one among distinct constraints just that one was seen. -/
theorem lookup_seenBehind_of_distinct {before between : List Constraint} {first : Constraint}
    (distinct : ((before ++ first :: between).map Constraint.name).Nodup) :
    (seenBehind (before ++ first :: between)).lookup first.name = some first := by
  rw [List.lookup_eq_some_iff]
  refine ⟨seenBehind between, seenBehind before, by simp [seenBehind], ?_⟩
  intro pair member
  obtain ⟨c, among, rfl⟩ := List.mem_map.mp (List.mem_reverse.mp member)
  -- What was seen later has other names.
  rw [List.map_append, List.map_cons] at distinct
  have later := (List.nodup_cons.mp (List.nodup_append.mp distinct).2.1).1
  rw [bne_iff_ne]
  intro same
  exact later (same ▸ List.mem_map_of_mem among)

/-- Constraints with new names are passed, and are seen behind them. -/
theorem checkDistinct_append {passed : List Constraint}
    (distinct : (passed.map Constraint.name).Nodup) (rest : List Constraint) :
    checkDistinct (passed ++ rest) = checkDistinct.go (seenBehind passed) rest := by
  -- Each of them is seen in front of those that follow, so they are added at the end.
  induction passed using List.reverseRecOn generalizing rest with
  | nil => rfl
  | append_singleton passed c ih =>
    rw [List.map_append, List.map_singleton, List.nodup_append_comm] at distinct
    obtain ⟨fresh, others⟩ := List.nodup_cons.mp distinct
    have seen : seenBehind (passed ++ [c]) = (c.name, c) :: seenBehind passed := by
      simp [seenBehind]
    rw [List.append_assoc, List.singleton_append, ih others, checkDistinct.go,
      lookup_seenBehind_of_fresh fresh, seen]

/-- Constraints with distinct names are accepted. -/
theorem checkDistinct_of_nodup {constraints : List Constraint}
    (distinct : (constraints.map Constraint.name).Nodup) : checkDistinct constraints = .ok () := by
  have passed := checkDistinct_append distinct []
  rwa [List.append_nil] at passed

/-- The first constraint whose name came before is refused, together with the one it came from. -/
theorem checkDistinct_of_repeat {before between : List Constraint} {first second : Constraint}
    (earliest : ((before ++ first :: between).map Constraint.name).Nodup)
    (same : second.name = first.name) (after : List Constraint) :
    checkDistinct (before ++ first :: between ++ second :: after) =
      .error (.nameCollision second.name first.origin second.origin) := by
  -- All in front of the second are passed, and its name leads back to the first.
  have seen : (seenBehind (before ++ first :: between)).lookup second.name = some first := by
    rw [same]
    exact lookup_seenBehind_of_distinct earliest
  rw [checkDistinct_append earliest, checkDistinct.go, seen]

/-- Looking for names that occur twice fails by a collision at most. -/
theorem checkDistinct_okOrCollision (constraints : List Constraint) :
    OkOrCollision (checkDistinct constraints) := by
  -- Names that are not distinct have a first repeat, which is the collision.
  by_cases distinct : (constraints.map Constraint.name).Nodup
  · exact .inl ⟨(), checkDistinct_of_nodup distinct⟩
  · obtain ⟨before, first, between, second, after, rfl, earliest, same⟩ :=
      exists_first_repeat Constraint.name distinct
    exact .inr ⟨_, _, _, checkDistinct_of_repeat earliest same after⟩

/-- Elements without single-member keys have the constraints they ask for, if the names of these are
distinct. -/
theorem constraintTexts_eq {elements : List Element} (several : ∀ e ∈ elements, e.key.length ≠ 1) :
    constraintTexts elements = do
      checkDistinct (elements.flatMap constraintsOf)
      return (elements.flatMap constraintsOf).map Constraint.text := by
  -- No key stops the derivation, so only the comparison of names is left.
  have derived : elements.mapM elementConstraints = .ok (elements.map constraintsOf) := by
    rw [mapM_eq_ok_iff, List.forall₂_map_right_iff, List.forall₂_same]
    exact fun e member => elementConstraints_eq (several e member)
  simp only [constraintTexts, distinctConstraints, derived, List.flatMap_def, Bind.bind,
    Except.bind]
  cases checkDistinct (elements.map constraintsOf).flatten with
  | error reason => rfl
  | ok passed => rfl

/-- Constraints of elements without single-member keys can be stated unless names collide. -/
theorem constraintTexts_okOrCollision {elements : List Element}
    (several : ∀ e ∈ elements, e.key.length ≠ 1) : OkOrCollision (constraintTexts elements) := by
  rw [constraintTexts_eq several]
  exact (checkDistinct_okOrCollision _).bind fun _ => .ok _

/-- The constraints of an element fail exactly on a key with a single member. -/
theorem elementConstraints_eq_error_iff {e : Element} {reason : CompileError} :
    elementConstraints e = .error reason ↔
      e.key.length = 1 ∧ reason = .insufficientKey e.ref 1 := by
  -- The key is the only part of an element whose constraint may fail.
  by_cases single : e.key.length = 1
  · have present : e.key ≠ [] := List.ne_nil_of_length_eq_add_one single
    have refused : elementConstraints e = .error (.insufficientKey e.ref 1) := by
      simp [elementConstraints, keyConstraint, present, single, Bind.bind, Except.bind]
    rw [refused, Except.error.injEq, and_iff_right single]
    exact eq_comm
  · simp [elementConstraints_eq single, single]

/-- The first key with a single member stops the constraints before any names are compared. -/
theorem constraintTexts_of_first_single {before : List Element} {e : Element}
    (several : ∀ other ∈ before, other.key.length ≠ 1) (single : e.key.length = 1)
    (after : List Element) :
    constraintTexts (before ++ e :: after) = .error (.insufficientKey e.ref 1) := by
  -- The constraints of all elements are derived first, one element after the other.
  have failed : (before ++ e :: after).mapM elementConstraints =
      .error (.insufficientKey e.ref 1) :=
    mapM_eq_error_of_first
      (fun other member => ⟨_, elementConstraints_eq (several other member)⟩)
      (elementConstraints_eq_error_iff.mpr ⟨single, rfl⟩)
  simp only [constraintTexts, distinctConstraints, failed, Bind.bind, Except.bind]

/-- Among elements of which one has a key with a single member there is a first one. -/
theorem exists_first_single {elements : List Element} {e : Element} (member : e ∈ elements)
    (single : e.key.length = 1) :
    ∃ before first after, elements = before ++ first :: after ∧
      (∀ other ∈ before, other.key.length ≠ 1) ∧ first.key.length = 1 := by
  -- A search finds the first one, as there is one to be found.
  have present : (elements.find? (·.key.length = 1)).isSome = true :=
    List.find?_isSome.mpr ⟨e, member, by simpa using single⟩
  obtain ⟨first, found⟩ := Option.isSome_iff_exists.mp present
  obtain ⟨one, before, after, split, ahead⟩ := List.find?_eq_some_iff_append.mp found
  exact ⟨before, first, after, split, by simpa using ahead, by simpa using one⟩

/-- A key with a single member stops the constraints. -/
theorem constraintTexts_of_single {elements : List Element} {e : Element} (member : e ∈ elements)
    (single : e.key.length = 1) :
    ∃ ref, constraintTexts elements = .error (.insufficientKey ref 1) := by
  -- The error is that of an element, though perhaps of another one further ahead.
  obtain ⟨before, first, after, rfl, several, one⟩ := exists_first_single member single
  exact ⟨first.ref, constraintTexts_of_first_single several one after⟩

end GraphLoad.Cypher
