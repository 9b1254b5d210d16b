import GraphLoad.Proofs.Cypher.ConstraintList
import GraphLoad.Proofs.Cypher.ConstraintName

/-! What the constraints of a model come to: which key is refused first, which two names collide
first, and which statements there are otherwise. -/

namespace GraphLoad.Cypher

/-- What the derivation of constraints from elements, taken in their order, has to end with. -/
inductive DerivesConstraints (elements : List Element) :
    Except CompileError (List String) → Prop where
  /-- The first key with a single member is refused, whatever names there are. -/
  | insufficientKey {before after : List Element} {e : Element}
      (split : elements = before ++ e :: after)
      (first : ∀ other ∈ before, other.key.length ≠ 1) (single : e.key.length = 1) :
      DerivesConstraints elements (.error (.insufficientKey e.ref 1))
  /-- Among all constraints the earliest is refused whose name came before, together with the only
  one in front of it that has the name. -/
  | nameCollision {before between after : List Constraint} {first second : Constraint}
      (several : ∀ e ∈ elements, e.key.length ≠ 1)
      (split : elements.flatMap constraintsOf = before ++ first :: between ++ second :: after)
      (earliest : ((before ++ first :: between).map Constraint.name).Nodup)
      (same : second.name = first.name) :
      DerivesConstraints elements (.error (.nameCollision second.name first.origin second.origin))
  /-- There is a statement for each constraint, and the names that stand in the statements are
  distinct and legal. -/
  | statements {names : List (List Char)} (several : ∀ e ∈ elements, e.key.length ≠ 1)
      (written : ((elements.flatMap constraintsOf).map Constraint.text).map writtenName =
        names.map some)
      (distinct : names.Nodup) (legal : ∀ name ∈ names, isConstraintName name = true) :
      DerivesConstraints elements (.ok ((elements.flatMap constraintsOf).map Constraint.text))

/-- The names that stand in the statements of some constraints are the names of these. -/
theorem map_writtenName_text (constraints : List Constraint) :
    (constraints.map Constraint.text).map writtenName =
      ((constraints.map Constraint.name).map String.toList).map some := by
  simp only [List.map_map, Function.comp_def, Constraint.writtenName_text]

/-- Constraints have distinct names exactly if distinct names stand in their statements. -/
theorem nodup_written_iff {constraints : List Constraint} {names : List (List Char)}
    (written : (constraints.map Constraint.text).map writtenName = names.map some) :
    names.Nodup ↔ (constraints.map Constraint.name).Nodup := by
  -- A name and its characters determine each other.
  rw [map_writtenName_text] at written
  have same := List.map_injective_iff.mpr (fun _ _ => Option.some.inj) written
  rw [← same, List.nodup_map_iff fun _ _ => String.toList_inj.mp]

variable {elements : List Element} {outcome : Except CompileError (List String)}

/-- The constraints of elements end with what they have to end with. -/
theorem derivesConstraints_constraintTexts (elements : List Element) :
    DerivesConstraints elements (constraintTexts elements) := by
  by_cases several : ∀ e ∈ elements, e.key.length ≠ 1
  · by_cases distinct : ((elements.flatMap constraintsOf).map Constraint.name).Nodup
    · -- All names differ, so every constraint has its statement.
      rw [constraintTexts_eq several, checkDistinct_of_nodup distinct]
      have written := map_writtenName_text (elements.flatMap constraintsOf)
      refine .statements several written ((nodup_written_iff written).mpr distinct) ?_
      intro name member
      obtain ⟨text, named, rfl⟩ := List.mem_map.mp member
      obtain ⟨c, _, rfl⟩ := List.mem_map.mp named
      exact c.isConstraintName_name
    · -- Some name is used again, and the earliest use of that kind is refused.
      obtain ⟨before, first, between, second, after, split, earliest, same⟩ :=
        exists_first_repeat Constraint.name distinct
      rw [constraintTexts_eq several, split, checkDistinct_of_repeat earliest same]
      exact .nameCollision several split earliest same
  · -- Some key has a single member, and the first one that has is the one refused.
    simp only [not_forall, Decidable.not_not] at several
    obtain ⟨e, member, single⟩ := several
    obtain ⟨before, first, after, rfl, ahead, one⟩ := exists_first_single member single
    rw [constraintTexts_of_first_single ahead one]
    exact .insufficientKey rfl ahead one

/-- There is one end that the constraints of elements can have. -/
theorem DerivesConstraints.constraintTexts_eq (derived : DerivesConstraints elements outcome) :
    constraintTexts elements = outcome := by
  -- Each end says enough of the elements for the derivation to be run on them.
  cases derived with
  | insufficientKey split first single =>
    rw [split]
    exact constraintTexts_of_first_single first single _
  | nameCollision several split earliest same =>
    rw [Cypher.constraintTexts_eq several, split, checkDistinct_of_repeat earliest same]
    rfl
  | statements several written distinct legal =>
    have apart := (nodup_written_iff written).mp distinct
    rw [Cypher.constraintTexts_eq several, checkDistinct_of_nodup apart]
    rfl

/-- The constraints of a model come to the one outcome that they have to: the refusal of the first
single-member key, else of the earliest name used before, else a statement for each under distinct
and legal names. -/
theorem constraintTexts_eq_iff_derives (m : Model)
    (outcome : Except CompileError (List String)) :
    constraintTexts m.elements = outcome ↔ DerivesConstraints m.elements outcome := by
  constructor
  · rintro rfl
    exact derivesConstraints_constraintTexts m.elements
  · exact DerivesConstraints.constraintTexts_eq

end GraphLoad.Cypher
