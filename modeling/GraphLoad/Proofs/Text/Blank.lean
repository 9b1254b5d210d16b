import GraphLoad.Text.Blank
import Mathlib.Data.List.Basic

/-! What is left of a text without the blanks around it, and what small letters leave of a blank. -/

namespace GraphLoad

/-- Blanks in front of a text are dropped, up to its first character that is none. -/
theorem dropWhile_isBlank {front text : List Char} (blank : ∀ c ∈ front, isBlank c = true)
    (starts : ∀ c, text.head? = some c → isBlank c = false) :
    (front ++ text).dropWhile isBlank = text := by
  rw [List.dropWhile_append_of_pos blank]
  cases text with
  | nil => rfl
  | cons c rest => rw [List.dropWhile_cons_of_neg (by simp [starts c rfl])]

/-- A word that neither starts nor ends with a blank is what is left when blanks around it go. -/
theorem trimBlanks_append {front word back : List Char} (before : ∀ c ∈ front, isBlank c = true)
    (behind : ∀ c ∈ back, isBlank c = true) (nonempty : word ≠ [])
    (starts : ∀ c, word.head? = some c → isBlank c = false)
    (ends : ∀ c, word.getLast? = some c → isBlank c = false) :
    trimBlanks (front ++ (word ++ back)) = word := by
  have opening : ∀ c, (word ++ back).head? = some c → isBlank c = false := by
    rwa [List.head?_append_of_ne_nil word nonempty]
  rw [trimBlanks, dropWhile_isBlank before opening, List.reverse_append]
  -- Seen from behind, the blanks at the end are in front of the word.
  rw [dropWhile_isBlank (by simpa using behind) (by simpa using ends), List.reverse_reverse]

/-- A text is what is left of it without the blanks around it, between those blanks. -/
theorem exists_trimBlanks (text : List Char) :
    ∃ front back, text = front ++ (trimBlanks text ++ back) ∧
      (∀ c ∈ front, isBlank c = true) ∧ ∀ c ∈ back, isBlank c = true := by
  have blank : ∀ list : List Char, ∀ c ∈ list.takeWhile isBlank, isBlank c = true :=
    fun list => List.all_eq_true.mp List.all_takeWhile
  refine ⟨text.takeWhile isBlank,
    ((text.dropWhile isBlank).reverse.takeWhile isBlank).reverse, ?_, blank text, ?_⟩
  · -- What is dropped from either end is put back there.
    rw [trimBlanks, ← List.reverse_append, List.takeWhile_append_dropWhile, List.reverse_reverse,
      List.takeWhile_append_dropWhile]
  · intro c member
    exact blank _ c (List.mem_reverse.mp member)

/-- Only the letters from `A` to `Z` are made small. -/
theorem toLower_eq_self {c : Char} (other : c.toNat < 65 ∨ 90 < c.toNat) : c.toLower = c := by
  unfold Char.toLower
  split
  · -- A capital letter would lie between the two bounds.
    rename_i capital
    have least : 65 ≤ c.toNat := capital.1
    have greatest : c.toNat ≤ 90 := capital.2
    omega
  · rfl

/-- A blank has no small letter but itself. -/
theorem toLower_of_isBlank {c : Char} (blank : isBlank c = true) : c.toLower = c := by
  apply toLower_eq_self
  -- No capital letter is a blank.
  simp [isBlank] at blank
  omega

/-- A character that becomes no blank when it is made small is none itself. -/
theorem isBlank_of_toLower {c : Char} (small : isBlank c.toLower = false) : isBlank c = false := by
  cases blank : isBlank c with
  | false => rfl
  | true => rwa [toLower_of_isBlank blank, blank] at small

end GraphLoad
