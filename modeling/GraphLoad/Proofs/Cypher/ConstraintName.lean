import GraphLoad.Cypher.Constraint
import GraphLoad.Proofs.Text.Blank
import Mathlib.Data.List.Basic

/-! Constraint names are legal without quotes, and can be read off the statements they stand in. -/

namespace GraphLoad.Cypher

/-- Whether a text is a name that needs no quotes: a small Latin letter or an underscore, then small
Latin letters, digits and underscores. -/
def isConstraintName : List Char → Bool
  | [] => false
  | c :: rest => (('a' ≤ c && c ≤ 'z') || c == '_') && rest.all isConstraintChar

/-- The name of the constraint that a statement creates, which ends at a blank. -/
def writtenName (statement : String) : Option (List Char) :=
  ("CREATE CONSTRAINT ".toList.isPrefixOf? statement.toList).map (·.takeWhile (· != ' '))

/-- Whatever becomes of a character may stand in a constraint name. -/
theorem isConstraintChar_of_mem_constraintChars {c d : Char} (derived : d ∈ constraintChars c) :
    isConstraintChar d = true := by
  unfold constraintChars at derived
  -- The two letters from beyond ASCII come first, then what is legal, then all others.
  split_ifs at derived with kelvin dotted small
  · obtain rfl := List.mem_singleton.mp derived
    decide
  · rcases List.mem_cons.mp derived with rfl | mark
    · decide
    · obtain rfl := List.mem_singleton.mp mark
      decide
  · obtain rfl := List.mem_singleton.mp derived
    exact small
  · obtain rfl := List.mem_singleton.mp derived
    decide

/-- No character vanishes from a constraint name. -/
theorem constraintChars_ne_nil (c : Char) : constraintChars c ≠ [] := by
  unfold constraintChars
  split_ifs <;> simp

/-- A character of constraint names that is no digit may start one. -/
theorem startsConstraintName {c : Char} (within : isConstraintChar c = true)
    (letter : c.isDigit = false) : (('a' ≤ c && c ≤ 'z') || c == '_') = true := by
  -- The digits are the middle one of the three ranges.
  have outside : (decide ('0' ≤ c) && decide (c ≤ '9')) = false := letter
  simpa [isConstraintChar, outside] using within

/-- What a text with characters becomes is a legal name. -/
theorem isConstraintName_sanitize {text : String} (nonempty : text.toList ≠ []) :
    isConstraintName (sanitize text).toList = true := by
  -- Whatever the characters become is legal within a name, and it is not nothing.
  have within : ∀ d ∈ text.toList.flatMap constraintChars, isConstraintChar d = true := by
    intro d member
    obtain ⟨c, _, derived⟩ := List.mem_flatMap.mp member
    exact isConstraintChar_of_mem_constraintChars derived
  have present : text.toList.flatMap constraintChars ≠ [] := by
    obtain ⟨c, rest, same⟩ := List.exists_cons_of_ne_nil nonempty
    simp [same, constraintChars_ne_nil]
  unfold sanitize
  rw [String.toList_ofList]
  -- A digit in front is the one character that is legal within a name but not at its start.
  cases derived : text.toList.flatMap constraintChars with
  | nil => exact absurd derived present
  | cons c rest =>
    rw [derived] at within
    obtain ⟨first, others⟩ := List.forall_mem_cons.mp within
    cases digit : c.isDigit with
    | true =>
      have all : (c :: rest).all isConstraintChar = true := List.all_eq_true.mpr within
      simp [isConstraintName, digit, all]
    | false =>
      have all : rest.all isConstraintChar = true := List.all_eq_true.mpr others
      simp [isConstraintName, digit, startsConstraintName first digit, all]

/-- All characters of a legal name may stand in one. -/
theorem isConstraintChar_of_isConstraintName {name : List Char}
    (legal : isConstraintName name = true) : ∀ c ∈ name, isConstraintChar c = true := by
  cases name with
  | nil => exact absurd legal Bool.false_ne_true
  | cons c rest =>
    simp only [isConstraintName, Bool.and_eq_true, Bool.or_eq_true, List.all_eq_true] at legal
    obtain ⟨start, others⟩ := legal
    -- A letter or underscore at the start is a character of names as well.
    have first : isConstraintChar c = true := by
      simp only [isConstraintChar, Bool.or_eq_true, Bool.and_eq_true]
      tauto
    exact List.forall_mem_cons.mpr ⟨first, others⟩

/-- A character of constraint names is left as it is. -/
theorem constraintChars_eq_self {c : Char} (within : isConstraintChar c = true) :
    constraintChars c = [c] := by
  -- No character of a name is a capital letter.
  have small : c.toLower = c := by
    apply toLower_eq_self
    simp only [isConstraintChar, Bool.or_eq_true, Bool.and_eq_true, decide_eq_true_eq,
      beq_iff_eq] at within
    -- The capital letters come behind the digits, and before the underscore and the small letters.
    rcases within with (⟨least, _⟩ | ⟨_, greatest⟩) | rfl
    · exact .inr (Nat.lt_of_lt_of_le (by decide : 90 < 'a'.toNat) least)
    · exact .inl (Nat.lt_of_le_of_lt greatest (by decide : '9'.toNat < 65))
    · exact .inr (by decide)
  unfold constraintChars
  -- The two letters from beyond ASCII are no characters of names.
  split_ifs with kelvin dotted legal
  · subst kelvin
    exact absurd within (by decide)
  · subst dotted
    exact absurd within (by decide)
  · rw [small]
  · rw [small] at legal
    exact absurd within legal

/-- A legal name does not start with a digit. -/
theorem not_isDigit_of_isConstraintName {c : Char} {rest : List Char}
    (legal : isConstraintName (c :: rest) = true) : c.isDigit = false := by
  simp only [isConstraintName, Bool.and_eq_true, Bool.or_eq_true, decide_eq_true_eq,
    beq_iff_eq] at legal
  obtain ⟨⟨least, _⟩ | rfl, _⟩ := legal
  · -- Small letters come behind the digits.
    have behind : ¬c ≤ '9' := fun greatest =>
      absurd (Nat.le_trans (least : 'a'.toNat ≤ c.toNat) greatest) (by decide)
    simp only [Char.isDigit, Bool.and_eq_false_iff, decide_eq_false_iff_not]
    exact .inr behind
  · decide

/-- A legal name is left as it is. -/
theorem sanitize_eq_self {name : String} (legal : isConstraintName name.toList = true) :
    sanitize name = name := by
  -- Its characters are kept, and with no digit in front nothing is put there.
  have kept : name.toList.flatMap constraintChars = name.toList := by
    rw [List.flatMap_congr fun c member =>
      constraintChars_eq_self (isConstraintChar_of_isConstraintName legal c member)]
    exact List.flatMap_singleton' _
  have letter : name.toList.head?.any Char.isDigit = false := by
    cases letters : name.toList with
    | nil => rfl
    | cons c rest =>
      rw [letters] at legal
      exact not_isDigit_of_isConstraintName legal
  simp only [sanitize, kept, letter, Bool.false_eq_true, if_false, String.ofList_toList]

namespace Constraint

/-- Every constraint has a legal name. -/
theorem isConstraintName_name (c : Constraint) : isConstraintName c.name.toList = true := by
  -- The name is made from a text that has an underscore at least.
  cases c with
  | unique element property => exact isConstraintName_sanitize (by simp)
  | key element properties => exact isConstraintName_sanitize (by simp)

/-- The name of a constraint is the one written in its statement. -/
theorem writtenName_text (c : Constraint) : writtenName c.text = some c.name.toList := by
  -- There is no blank within the name.
  have named : ∀ d ∈ c.name.toList, (d != ' ') = true := by
    intro d member
    have within := isConstraintChar_of_isConstraintName c.isConstraintName_name d member
    rw [bne_iff_ne]
    rintro rfl
    exact absurd within (by decide)
  have split : "CREATE CONSTRAINT ".toList ++ (c.name.toList ++ ' ' ::
      ("IF NOT EXISTS FOR " ++ elementPattern c.element ++ " REQUIRE " ++ c.demand ++ ";").toList)
        = c.text.toList := by
    unfold text
    simp only [String.toList_append, List.append_assoc]
    rfl
  unfold writtenName
  rw [List.isPrefixOf?_eq_some_iff_append_eq.mpr split, Option.map_some]
  -- The blank behind the name is the first one, since a legal name holds none.
  rw [List.takeWhile_append_of_pos named, List.takeWhile_cons_of_neg (by decide), List.append_nil]

end Constraint

/-- A text has the empty name only if it is empty, and otherwise a name that is legal without
quotes. Making a name of a name changes nothing, and every constraint has a legal name. -/
theorem sanitize_legal_and_stable :
    (∀ text : String, (sanitize text = "" ↔ text = "") ∧
      (isConstraintName (sanitize text).toList = true ↔ text ≠ "") ∧
      sanitize (sanitize text) = sanitize text) ∧
    ∀ c : Constraint, isConstraintName c.name.toList = true := by
  refine ⟨fun text => ?_, Constraint.isConstraintName_name⟩
  by_cases empty : text = ""
  · subst empty
    decide
  · -- A first name is a legal one, so the second time there is nothing to change.
    have legal : isConstraintName (sanitize text).toList = true :=
      isConstraintName_sanitize (by simpa using empty)
    have present : sanitize text ≠ "" := by
      intro vanished
      rw [vanished] at legal
      exact absurd legal (by decide)
    exact ⟨iff_of_false present empty, iff_of_true legal empty, sanitize_eq_self legal⟩

end GraphLoad.Cypher
