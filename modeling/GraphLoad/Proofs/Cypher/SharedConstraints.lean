import GraphLoad.Proofs.Cypher.ConstraintOutcome
import GraphLoad.Proofs.Cypher.ConstraintText
import GraphLoad.Proofs.Schema.Blocking
import Mathlib.Data.List.Pairwise

/-! Which constraints are refused for their names: different ones under one name, and those that
several relationships of one type share. -/

namespace GraphLoad

open Cypher

/-- Whether something is declared twice. -/
def Fault.isDuplicate : Fault → Bool
  | duplicateLabel _ | duplicateRelationship .. | duplicateProperty .. => true
  | _ => false

/-- A model that declares nothing twice. -/
structure Model.Distinct (m : Model) : Prop where
  /-- No two nodes share a label. -/
  labels : m.nodeLabels.Nodup
  /-- No two relationships share type, source and target. -/
  triples : (m.relationships.map fun r => (r.type, r.source, r.target)).Nodup
  /-- No two properties of an element share a name. -/
  names : ∀ e ∈ m.elements, e.propertyNames.Nodup

/-- Two relationships of one type, between different labels, that both ask for a constraint. -/
def Model.Shares (m : Model) (c : Constraint) : Prop :=
  ∃ r ∈ m.relationships, ∃ s ∈ m.relationships, r.type = s.type ∧
    (r.source, r.target) ≠ (s.source, s.target) ∧
    c ∈ constraintsOf r.element ∧ c ∈ constraintsOf s.element

/-- Items are distinct if each repeat is reported as a duplicate and no duplicate is reported. -/
theorem nodup_of_reported {α : Type} [BEq α] [LawfulBEq α] {items : List α} {faults : List Fault}
    (single : ∀ d ∈ faults, d.isDuplicate = false)
    (reported : ∀ a ∈ repeats items, ∃ d ∈ faults, d.isDuplicate = true) : items.Nodup := by
  rw [← repeats_eq_nil_iff, List.eq_nil_iff_forall_not_mem]
  intro a member
  obtain ⟨d, among, duplicate⟩ := reported a member
  exact Bool.false_ne_true ((single d among).symm.trans duplicate)

/-- Where the check reports no duplicates, there are none. -/
theorem Model.distinct_of_faults {m : Model} {default : String}
    (single : ∀ d ∈ m.faults none default, d.isDuplicate = false) : m.Distinct := by
  -- Without files, the faults are those of the structure and of the elements.
  have structural : ∀ d ∈ m.checkStructure default, d ∈ m.faults none default := by
    intro d member
    simp [faults, member]
  constructor
  · apply nodup_of_reported single
    intro label member
    refine ⟨.duplicateLabel label, structural _ ?_, rfl⟩
    simp [checkStructure, member]
  · apply nodup_of_reported single
    rintro ⟨type, source, target⟩ member
    refine ⟨.duplicateRelationship type source target, structural _ ?_, rfl⟩
    simp [checkStructure, member]
  · intro e within
    apply nodup_of_reported single
    intro name member
    refine ⟨.duplicateProperty e.ref name, ?_, rfl⟩
    -- The names of an element are looked at with and without files.
    have own : Fault.duplicateProperty e.ref name ∈ e.check none :=
      List.mem_append_left _ (List.mem_map_of_mem member)
    simp only [faults, List.mem_append, List.mem_flatMap]
    exact .inl (.inr ⟨e, within, own⟩)

namespace Cypher

/-- An item that is derived twice is derived twice from one source, or from two of them. -/
theorem pair_sublist_flatMap {α β : Type} {f : α → List β} {xs : List α} {y : β}
    (twice : [y, y].Sublist (xs.flatMap f)) :
    (∃ x ∈ xs, [y, y].Sublist (f x)) ∨
      ∃ a b, [a, b].Sublist xs ∧ y ∈ f a ∧ y ∈ f b := by
  -- Source by source, where what was derived from the first stands in front.
  induction xs with
  | nil => simp at twice
  | cons x xs ih =>
    rw [List.flatMap_cons] at twice
    obtain ⟨front, back, split, here, later⟩ := List.sublist_append_iff.mp twice
    -- None, one or both of the two come from the first source.
    rcases front with _ | ⟨y₁, _ | ⟨y₂, front⟩⟩
    · rw [List.nil_append] at split
      subst split
      rcases ih later with ⟨a, member, own⟩ | ⟨a, b, both, first, second⟩
      · exact .inl ⟨a, List.mem_cons_of_mem x member, own⟩
      · exact .inr ⟨a, b, both.cons x, first, second⟩
    · obtain ⟨rfl, rfl⟩ : y = y₁ ∧ [y] = back := by simpa using split
      obtain ⟨b, member, second⟩ := List.mem_flatMap.mp (List.singleton_sublist.mp later)
      have both : [x, b].Sublist (x :: xs) := (List.singleton_sublist.mpr member).cons_cons x
      exact .inr ⟨x, b, both, List.singleton_sublist.mp here, second⟩
    · obtain ⟨rfl, rfl, rfl, rfl⟩ : y = y₁ ∧ y = y₂ ∧ [] = front ∧ [] = back := by
        simpa using split
      exact .inl ⟨x, List.mem_cons_self, here⟩

/-- An element with distinct property names asks for no constraint twice. -/
theorem nodup_constraintsOf {e : Element} (distinct : e.propertyNames.Nodup) :
    (constraintsOf e).Nodup := by
  -- The unique properties are some of all properties, in their order.
  have names : (e.unique.map Property.name).Nodup := distinct.sublist (List.filter_sublist.map _)
  have single : (e.unique.map fun p => Constraint.unique e.ref p.name).Nodup := by
    have mapped := names.map (f := Constraint.unique e.ref) fun _ _ same => by injection same
    rwa [List.map_map] at mapped
  unfold constraintsOf
  refine List.nodup_append.mpr ⟨single, ?_, ?_⟩
  · split <;> simp
  · -- A demand on one property is never one on a key.
    intro c asked d keyed same
    obtain ⟨p, _, rfl⟩ := List.mem_map.mp asked
    subst same
    split at keyed <;> simp at keyed

/-- A constraint is about the element that asks for it. -/
theorem element_of_mem_constraintsOf {e : Element} {c : Constraint} (asked : c ∈ constraintsOf e) :
    c.element = e.ref := by
  -- It demands a unique property of the element, or its key.
  rcases List.mem_append.mp asked with asked | keyed
  · obtain ⟨p, _, rfl⟩ := List.mem_map.mp asked
    rfl
  · split at keyed
    · cases keyed
    · obtain rfl := List.mem_singleton.mp keyed
      rfl

end Cypher

namespace Model

variable {m : Model}

/-- In a model that declares nothing twice, two elements of one name are relationships between
different labels. -/
theorem Distinct.pairwise_elements (distinct : m.Distinct) :
    m.elements.Pairwise fun e f => e.ref = f.ref →
      ∃ r ∈ m.relationships, ∃ s ∈ m.relationships, r.element = e ∧ s.element = f ∧
        (r.source, r.target) ≠ (s.source, s.target) := by
  refine List.pairwise_append.mpr ⟨List.pairwise_map.mpr ?_, List.pairwise_map.mpr ?_, ?_⟩
  · -- Two nodes differ in their labels.
    refine (List.pairwise_map.mp distinct.labels).imp ?_
    intro a b apart named
    exact absurd (by injection named) apart
  · -- Two relationships of one type differ in their ends.
    refine (List.pairwise_map.mp distinct.triples).imp_of_mem ?_
    intro r s rMember sMember apart named
    refine ⟨r, rMember, s, sMember, rfl, rfl, fun ends => apart ?_⟩
    have types : r.type = s.type := by injection named
    rw [types, ends]
  · -- A node is no relationship.
    intro e node f relationship named
    obtain ⟨n, _, rfl⟩ := List.mem_map.mp node
    obtain ⟨r, _, rfl⟩ := List.mem_map.mp relationship
    cases named

/-- In a model that declares nothing twice, a constraint that is asked for twice is shared. -/
theorem Distinct.shares_of_twice (distinct : m.Distinct) {c : Constraint}
    (twice : [c, c].Sublist (m.elements.flatMap constraintsOf)) : m.Shares c := by
  rcases pair_sublist_flatMap twice with ⟨e, member, own⟩ | ⟨e, f, both, first, second⟩
  · -- A single element asks for it once.
    exact absurd own (List.nodup_iff_sublist.mp (nodup_constraintsOf (distinct.names e member)) c)
  · -- Two elements that ask for it have one name, so they are relationships.
    have named : e.ref = f.ref :=
      (element_of_mem_constraintsOf first).symm.trans (element_of_mem_constraintsOf second)
    have pairs := List.pairwise_iff_forall_sublist.mp distinct.pairwise_elements both
    obtain ⟨r, rMember, s, sMember, rfl, rfl, apart⟩ := pairs named
    have types : r.type = s.type := by
      injection named
    exact ⟨r, rMember, s, sMember, types, apart, first, second⟩

/-- A shared constraint has its name twice. -/
theorem Shares.not_nodup {c : Constraint} (shared : m.Shares c) :
    ¬ ((m.elements.flatMap constraintsOf).map Constraint.name).Nodup := by
  obtain ⟨r, rMember, s, sMember, _, apart, first, second⟩ := shared
  intro distinct
  -- Distinct names would keep the constraints of any two relationships apart.
  have elements := (List.nodup_flatMap.mp distinct.of_map).2
  have relationships := List.pairwise_map.mp (List.pairwise_append.mp elements).2.1
  have symmetric : Std.Symm fun a b : Relationship =>
      Function.onFun List.Disjoint constraintsOf a.element b.element :=
    ⟨fun _ _ disjoint _ second first => disjoint first second⟩
  have different : r ≠ s := fun same => apart (by rw [same])
  exact relationships.forall rMember sMember different first second

/-- A model in which relationships of one type share a constraint has no constraint statements. -/
theorem Shares.constraintTexts_ne_ok {c : Constraint} (shared : m.Shares c) (texts : List String) :
    constraintTexts m.elements ≠ .ok texts := by
  -- Statements come only under names that are distinct.
  intro derived
  have outcome := derivesConstraints_constraintTexts m.elements
  rw [derived] at outcome
  cases outcome with
  | statements several written distinct legal =>
    exact shared.not_nodup ((nodup_written_iff written).mp distinct)

/-- In a model that declares nothing twice, two constraints refused under one name have one
statement exactly if they are one, shared by relationships of one type between different labels. A
model with such relationships is always refused. -/
theorem collision_shared_iff {default : String}
    (single : ∀ d ∈ m.faults none default, d.isDuplicate = false) :
    (∀ c, m.Shares c → ∀ texts, constraintTexts m.elements ≠ .ok texts) ∧
      ∀ name a b, constraintTexts m.elements = .error (.nameCollision name a b) →
        ∃ before first between second after,
          m.elements.flatMap constraintsOf = before ++ first :: between ++ second :: after ∧
          ((before ++ first :: between).map Constraint.name).Nodup ∧
          first.name = name ∧ second.name = name ∧ first.origin = a ∧ second.origin = b ∧
          (first.text = second.text ↔ first = second ∧ m.Shares first) := by
  have distinct := distinct_of_faults single
  refine ⟨fun c shared texts => shared.constraintTexts_ne_ok texts, ?_⟩
  intro name a b refused
  have outcome := derivesConstraints_constraintTexts m.elements
  rw [refused] at outcome
  -- The refusal is about the earliest name that came before.
  cases outcome with
  | @nameCollision before between after first second several split earliest same =>
    refine ⟨before, first, between, second, after, split, earliest, same.symm, rfl, rfl, rfl, ?_⟩
    constructor
    · -- A statement tells its constraint, so that one constraint was asked for twice.
      intro sameText
      obtain rfl := Constraint.text_injective sameText
      refine ⟨rfl, distinct.shares_of_twice ?_⟩
      -- It stands at two places of the list.
      rw [split]
      have here : [first].Sublist (before ++ first :: between) :=
        List.singleton_sublist.mpr (List.mem_append_right _ List.mem_cons_self)
      exact here.append (List.singleton_sublist.mpr List.mem_cons_self)
    · rintro ⟨rfl, -⟩
      rfl

/-- Two labels whose constraints get one name. -/
def tags : Model where
  nodes := [
    { label := "Has-Tag", properties := [{ name := "id", column := "id", isUnique := true }] },
    { label := "Has_Tag", properties := [{ name := "id", column := "id", isUnique := true }] }]

/-- The constraints on the two labels are different ones, and are refused for good reason. -/
theorem collision_shared_iff_tags :
    (∀ d ∈ tags.faults none "file", d.isDuplicate = false) ∧
      (∀ c, tags.Shares c → ∀ texts, constraintTexts tags.elements ≠ .ok texts) ∧
        ∀ name a b, constraintTexts tags.elements = .error (.nameCollision name a b) →
          ∃ before first between second after,
            tags.elements.flatMap constraintsOf = before ++ first :: between ++ second :: after ∧
            ((before ++ first :: between).map Constraint.name).Nodup ∧
            first.name = name ∧ second.name = name ∧ first.origin = a ∧ second.origin = b ∧
            (first.text = second.text ↔ first = second ∧ tags.Shares first) :=
  ⟨by decide, collision_shared_iff
    (by decide : ∀ d ∈ tags.faults none "file", d.isDuplicate = false)⟩

/-- People who are members of clubs and of teams, each time with a card of their own. -/
def memberships : Model where
  nodes := [
    { label := "Person", properties := [{ name := "name", column := "person", isUnique := true }] },
    { label := "Club", properties := [{ name := "name", column := "club", isUnique := true }] },
    { label := "Team", properties := [{ name := "name", column := "team", isUnique := true }] }]
  relationships := [
    { type := "MEMBER_OF", source := "Person", target := "Club"
      properties := [{ name := "card", column := "card", isUnique := true }] },
    { type := "MEMBER_OF", source := "Person", target := "Team"
      properties := [{ name := "card", column := "card", isUnique := true }] }]

/-- Nothing is wrong with the memberships, and both ask for one constraint, with one statement. They
are refused all the same. -/
theorem memberships_refused :
    memberships.faults none "file.csv" = [] ∧
      constraintTexts memberships.elements = .error (.nameCollision "member_of_card"
        "relationship property MEMBER_OF.card" "relationship property MEMBER_OF.card") ∧
      ∃ before first between second after,
        memberships.elements.flatMap constraintsOf =
          before ++ first :: between ++ second :: after ∧
        first.name = "member_of_card" ∧ second.name = "member_of_card" ∧
        first.text = second.text := by
  -- The constraints of the nodes stand in front, and nothing between the two of one statement.
  let named (label : String) : Constraint := .unique (.node label) "name"
  let card : Constraint := .unique (.relationship "MEMBER_OF") "card"
  exact ⟨by decide, by decide, [named "Person", named "Club", named "Team"], card, [], card, [],
    by decide, by decide, by decide, rfl⟩

end Model

end GraphLoad
