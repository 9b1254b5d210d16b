import GraphLoad.Proofs.Cypher.ConstraintName
import GraphLoad.Proofs.Cypher.Unambiguous

/-! The statement of a constraint tells the constraint: different constraints have different
statements, even under one name. -/

namespace GraphLoad.Cypher

/-- Patterns of elements are unambiguous, whatever follows them. -/
theorem unambiguous_elementPattern :
    Unambiguous (fun _ => True) (fun _ => True) fun e => (elementPattern e).toList := by
  have round : ∀ rest, EndsName (")".toList ++ rest) := endsName_cons (by decide) (by decide)
  have square : ∀ rest, EndsName ("]-()".toList ++ rest) := endsName_cons (by decide) (by decide)
  intro e f s t _ _ _ _ same
  cases e with
  | node label =>
    cases f with
    | node other =>
      -- Behind the common opening, the label ends at the parenthesis.
      simp only [elementPattern, String.toList_append, List.append_assoc,
        List.append_cancel_left_eq] at same
      obtain ⟨rfl, rest⟩ := unambiguous_identifier trivial trivial (round s) (round t) same
      exact ⟨rfl, List.append_cancel_left rest⟩
    | relationship type =>
      -- The second characters differ.
      simp [elementPattern] at same
  | relationship type =>
    cases f with
    | node label => simp [elementPattern] at same
    | relationship other =>
      simp only [elementPattern, String.toList_append, List.append_assoc,
        List.append_cancel_left_eq] at same
      obtain ⟨rfl, rest⟩ := unambiguous_identifier trivial trivial (square s) (square t) same
      exact ⟨rfl, List.append_cancel_left rest⟩

/-- Properties of one element are unambiguous before what ends a name. -/
theorem unambiguous_propertyText (e : ElementRef) :
    Unambiguous (fun _ => True) EndsName fun property => (propertyText e property).toList := by
  intro p q s t _ _ before after same
  simp only [propertyText, String.toList_append, List.append_assoc,
    List.append_cancel_left_eq] at same
  exact unambiguous_identifier trivial trivial before after same

/-- A list of properties starts with a variable, unless it is empty. -/
theorem head?_members (e : ElementRef) (p : String) (ps : List String) (rest : List Char) :
    ((", ".intercalate ((p :: ps).map (propertyText e))).toList ++ rest).head? =
      (elementVar e).toList.head? := by
  rw [String.toList_intercalate, List.map_map, List.map_cons, intercalate_cons_eq]
  cases e <;> simp [propertyText, elementVar]

/-- Lists of properties of one element are unambiguous before the parenthesis that closes them. -/
theorem unambiguous_members (e : ElementRef) :
    Unambiguous (fun _ => True) (fun rest => rest.head? = some ')') fun properties : List String =>
      (", ".intercalate (properties.map (propertyText e))).toList := by
  -- The variable of an element is no parenthesis.
  have open_ : (elementVar e).toList.head? ≠ some ')' := by
    cases e <;> simp [elementVar]
  have stops : ∀ rest : List Char, rest.head? = some ')' → StopsList rest := by
    intro rest closed
    obtain ⟨others, rfl⟩ := List.head?_eq_some_iff.mp closed
    exact stopsList_cons (by decide) (by decide) (by decide) others
  -- An empty list ends at once, where any other goes on with a variable.
  intro properties others s t _ _ before after same
  cases properties with
  | nil =>
    cases others with
    | nil => exact ⟨rfl, same⟩
    | cons q qs =>
      have first := head?_members e q qs t
      rw [← same] at first
      exact absurd (first.symm.trans before) open_
  | cons p ps =>
    cases others with
    | nil =>
      have first := head?_members e p ps s
      rw [same] at first
      exact absurd (first.symm.trans after) open_
    | cons q qs =>
      exact unambiguous_commas (unambiguous_propertyText e) ⟨by simp, fun _ _ => trivial⟩
        ⟨by simp, fun _ _ => trivial⟩ (stops s before) (stops t after) same

namespace Constraint

/-- Constraints on one element that demand the same are the same. -/
theorem eq_of_demand {c d : Constraint} (sameElement : c.element = d.element)
    (sameDemand : c.demand = d.demand) : c = d := by
  -- What follows a property or a list of them ends it.
  have blank : ∀ rest, EndsName (" IS UNIQUE".toList ++ rest) :=
    endsName_cons (by decide) (by decide)
  have close : ∀ rest, (") IS ".toList ++ rest).head? = some ')' := fun _ => rfl
  have letters := congrArg String.toList sameDemand
  cases c with
  | unique e p =>
    cases d with
    | unique f q =>
      obtain rfl : e = f := sameElement
      simp only [demand, String.toList_append] at letters
      obtain ⟨rfl, -⟩ := unambiguous_propertyText e trivial trivial (blank []) (blank []) letters
      rfl
    | key f qs =>
      -- A variable is no parenthesis.
      cases e <;> simp [demand, propertyText, elementVar] at letters
  | key e ps =>
    cases d with
    | unique f q => cases f <;> simp [demand, propertyText, elementVar] at letters
    | key f qs =>
      obtain rfl : e = f := sameElement
      simp only [demand, String.toList_append, List.append_assoc,
        List.append_cancel_left_eq] at letters
      obtain ⟨rfl, -⟩ := unambiguous_members e trivial trivial (close _) (close _) letters
      rfl

/-- Statements tell constraints: behind the name they state the element and the demand. -/
theorem text_injective : Function.Injective Constraint.text := by
  intro c d same
  -- The names end at the same blank, so that what follows them is the same as well.
  have sameName : c.name = d.name := by
    have written := congrArg writtenName same
    rw [writtenName_text, writtenName_text] at written
    exact String.toList_inj.mp (Option.some.inj written)
  unfold text at same
  have letters := congrArg String.toList same
  simp only [sameName, String.toList_append, List.append_assoc,
    List.append_cancel_left_eq] at letters
  obtain ⟨sameElement, rest⟩ := unambiguous_elementPattern trivial trivial trivial trivial letters
  simp only [List.append_cancel_left_eq, List.append_cancel_right_eq] at rest
  exact eq_of_demand sameElement (String.toList_inj.mp rest)

end Constraint

/-- What a statement for a single constraint is asked for. -/
inductive ConstraintRequest where
  /-- No two elements are to share a value of the property. -/
  | unique (element : ElementRef) (property : Property)
  /-- The properties are to be a composite key. -/
  | key (element : ElementRef) (properties : List Property)
deriving DecidableEq, Repr

namespace ConstraintRequest

/-- The statement that is asked for, or why there is none. -/
def text : ConstraintRequest → Except CompileError String
  | unique element property => .ok (Constraint.unique element property.name).text
  | key element properties => (keyConstraint element properties).map Constraint.text

/-- Whether a key is asked for, and not a property of its own. -/
def isKey : ConstraintRequest → Bool
  | unique .. => false
  | key .. => true

/-- The nodes of a label, or the relationships of a type, that the request is about. -/
def element : ConstraintRequest → ElementRef
  | unique element _ | key element _ => element

/-- The properties, in their order. -/
def properties : ConstraintRequest → List Property
  | unique _ property => [property]
  | key _ properties => properties

/-- A key has at least two members. -/
def IsComplete (a : ConstraintRequest) : Prop :=
  a.isKey = true → 2 ≤ a.properties.length

/-- The constraint that is asked for. -/
def constraint : ConstraintRequest → Constraint
  | unique element property => .unique element property.name
  | key element properties => .key element (properties.map Property.name)

/-- A complete request has the statement of its constraint, and no other request has any. -/
theorem text_eq_ok_iff {a : ConstraintRequest} {text : String} :
    a.text = .ok text ↔ a.IsComplete ∧ a.constraint.text = text := by
  cases a with
  | unique e p => simp [ConstraintRequest.text, IsComplete, isKey, constraint]
  | key e ps =>
    -- The members are counted before anything is written.
    by_cases few : ps.length < 2
    · simp [ConstraintRequest.text, keyConstraint, IsComplete, isKey, properties, few, Except.map,
        Nat.not_le.mpr few]
    · simp [ConstraintRequest.text, keyConstraint, IsComplete, isKey, properties, few, Except.map,
        constraint, Nat.not_lt.mp few]

/-- A constraint is told by its kind, its element and the names of its properties. -/
theorem constraint_eq_iff {a b : ConstraintRequest} :
    a.constraint = b.constraint ↔
      a.isKey = b.isKey ∧ a.element = b.element ∧
        a.properties.map Property.name = b.properties.map Property.name := by
  cases a <;> cases b <;> simp [constraint, isKey, element, properties]

/-- Two requests lead to one statement exactly if both can be met and they ask for one kind of
constraint, on one label or type, over properties of the same names in the same order. -/
theorem sameText_iff (a b : ConstraintRequest) :
    (∃ text, a.text = .ok text ∧ b.text = .ok text) ↔
      a.IsComplete ∧ b.IsComplete ∧ a.isKey = b.isKey ∧ a.element = b.element ∧
        a.properties.map Property.name = b.properties.map Property.name := by
  simp only [text_eq_ok_iff, ← constraint_eq_iff]
  constructor
  · -- The statement gives the constraint away, whatever stands in the names.
    rintro ⟨_, ⟨first, rfl⟩, second, same⟩
    exact ⟨first, second, (Constraint.text_injective same).symm⟩
  · rintro ⟨first, second, same⟩
    exact ⟨_, ⟨first, rfl⟩, second, by rw [same]⟩

/-- Two keys under one name, over different properties. -/
example :
    let read (names : List String) := names.map fun name => ({ name, column := name } : Property)
    (key (.node "A") (read ["a", "b_c"])).constraint.name =
        (key (.node "A") (read ["a_b", "c"])).constraint.name ∧
      (key (.node "A") (read ["a", "b_c"])).text ≠ (key (.node "A") (read ["a_b", "c"])).text := by
  decide

end ConstraintRequest

end GraphLoad.Cypher
