import GraphLoad.Text.Count
import Mathlib.Tactic.SplitIfs

/-! Counts: which texts are one, and why every other text is not. -/

namespace GraphLoad

/-- A text without the plus sign it may open with. -/
def unsigned : List Char → List Char
  | '+' :: digits => digits
  | digits => digits

/-- A text that writes a number: one or more decimal digits, with or without a plus sign in front.
-/
structure WritesNumber (text : List Char) (n : Nat) : Prop where
  /-- There is a digit. -/
  nonempty : unsigned text ≠ []
  /-- There is nothing but digits. -/
  digits : ∀ c ∈ unsigned text, c.isDigit = true
  /-- The digits have this value, however many zeros they start with. -/
  value : Nat.ofDigitChars 10 (unsigned text) 0 = n

/-- Why a text is not a count. The first character decides that is no digit, or at which the number
is too large for 32 bits. -/
inductive NotCount (text : List Char) : CountError → Prop where
  /-- There is no text. -/
  | empty (nothing : text = []) : NotCount text .empty
  /-- There is a sign and nothing behind it. -/
  | loneSign (sign : text = ['+']) : NotCount text .notDigit
  /-- Behind digits that 32 bits can hold stands another character. -/
  | notDigit {digits : List Char} {c : Char} {rest : List Char}
      (split : unsigned text = digits ++ c :: rest) (read : ∀ d ∈ digits, d.isDigit = true)
      (held : Nat.ofDigitChars 10 digits 0 < UInt32.size) (other : c.isDigit = false) :
      NotCount text .notDigit
  /-- Some digits at the start already need more than 32 bits. -/
  | tooLarge {digits rest : List Char} (split : unsigned text = digits ++ rest)
      (read : ∀ d ∈ digits, d.isDigit = true)
      (large : UInt32.size ≤ Nat.ofDigitChars 10 digits 0) : NotCount text .tooLarge

/-- A decimal digit has its value, and no other character has one. -/
theorem digit?_ten (c : Char) :
    digit? 10 c = if c.isDigit then some (c.toNat - '0'.toNat) else none := by
  -- A character from `0` to `9` counts at most nine, and the letters count ten or more.
  have digit : c.isDigit = true ↔ '0' ≤ c ∧ c ≤ '9' := by simp [Char.isDigit, Char.le_def]
  have code : ∀ first last : Char, first ≤ c ∧ c ≤ last ↔
      first.toNat ≤ c.toNat ∧ c.toNat ≤ last.toNat := fun _ _ => Iff.rfl
  simp only [digit?, digit, code, show '0'.toNat = 48 from rfl, show '9'.toNat = 57 from rfl,
    show 'a'.toNat = 97 from rfl, show 'f'.toNat = 102 from rfl, show 'A'.toNat = 65 from rfl,
    show 'F'.toNat = 70 from rfl]
  split_ifs <;> simp [Option.filter]
  -- What is left is that a digit counts less than ten.
  omega

/-- Digits never make a number smaller. -/
theorem le_ofDigitChars (digits : List Char) (value : Nat) :
    value ≤ Nat.ofDigitChars 10 digits value := by
  induction digits generalizing value with
  | nil => exact Nat.le_refl value
  | cons c rest ih =>
    rw [Nat.ofDigitChars_cons]
    -- A digit makes ten times of the value before it adds to it.
    exact Nat.le_trans (by omega) (ih _)

section CountFrom

variable {value : Nat} {digits rest : List Char}

/-- A digit makes ten times the number and itself of what was read, if 32 bits can hold that. -/
theorem countFrom_cons {c : Char} (digit : c.isDigit = true) :
    countFrom value (c :: rest) =
      if 10 * value + (c.toNat - '0'.toNat) < UInt32.size
        then countFrom (10 * value + (c.toNat - '0'.toNat)) rest else .error .tooLarge := by
  rw [countFrom, digit?_ten, if_pos digit]

/-- Digits are read as long as 32 bits can hold what they write. -/
theorem countFrom_append (read : ∀ d ∈ digits, d.isDigit = true)
    (held : Nat.ofDigitChars 10 digits value < UInt32.size) :
    countFrom value (digits ++ rest) = countFrom (Nat.ofDigitChars 10 digits value) rest := by
  induction digits generalizing value with
  | nil => rfl
  | cons c digits ih =>
    obtain ⟨digit, others⟩ := List.forall_mem_cons.mp read
    rw [Nat.ofDigitChars_cons] at held ⊢
    -- What is written in the end is no smaller than what is read so far.
    have now := Nat.lt_of_le_of_lt (le_ofDigitChars digits _) held
    rw [List.cons_append, countFrom_cons digit, if_pos now, ih others held]

/-- Digits that 32 bits cannot hold are refused, whatever follows them. -/
theorem countFrom_of_large (before : value < UInt32.size)
    (read : ∀ d ∈ digits, d.isDigit = true)
    (large : UInt32.size ≤ Nat.ofDigitChars 10 digits value) :
    countFrom value (digits ++ rest) = .error .tooLarge := by
  induction digits generalizing value with
  | nil => exact absurd before (Nat.not_lt.mpr large)
  | cons c digits ih =>
    obtain ⟨digit, others⟩ := List.forall_mem_cons.mp read
    rw [Nat.ofDigitChars_cons] at large
    rw [List.cons_append, countFrom_cons digit]
    -- Either this digit is the one too many, or a later one is.
    split
    · rename_i held
      exact ih held others large
    · rfl

/-- Reading ends in one of three ways: all are digits and can be held, the first other character
stands behind such digits, or some digits cannot be held. -/
theorem countFrom_cases (before : value < UInt32.size) (text : List Char) :
    ((∀ d ∈ text, d.isDigit = true) ∧ Nat.ofDigitChars 10 text value < UInt32.size) ∨
      (∃ digits c rest, text = digits ++ c :: rest ∧ (∀ d ∈ digits, d.isDigit = true) ∧
        Nat.ofDigitChars 10 digits value < UInt32.size ∧ c.isDigit = false) ∨
      ∃ digits rest, text = digits ++ rest ∧ (∀ d ∈ digits, d.isDigit = true) ∧
        UInt32.size ≤ Nat.ofDigitChars 10 digits value := by
  induction text generalizing value with
  | nil => exact .inl ⟨by simp, before⟩
  | cons c text ih =>
    cases digit : c.isDigit with
    | false => exact .inr (.inl ⟨[], c, text, rfl, by simp, before, digit⟩)
    | true =>
      by_cases held : 10 * value + (c.toNat - '0'.toNat) < UInt32.size
      · -- What ends the rest of the text ends the text.
        rcases ih held with ⟨read, all⟩ | ⟨digits, d, rest, rfl, read, all, other⟩ |
          ⟨digits, rest, rfl, read, large⟩
        · exact .inl ⟨by simpa [digit] using read, all⟩
        · exact .inr (.inl ⟨c :: digits, d, rest, rfl, by simpa [digit] using read, all, other⟩)
        · exact .inr (.inr ⟨c :: digits, rest, rfl, by simpa [digit] using read, large⟩)
      · exact .inr (.inr ⟨[c], text, rfl, by simpa using digit, Nat.not_lt.mp held⟩)

end CountFrom

variable {text : List Char} {n : Nat}

/-- Behind the sign, a count is read digit by digit. -/
theorem readCount_eq (present : unsigned text ≠ []) :
    readCount text = countFrom 0 (unsigned text) := by
  unfold readCount unsigned at *
  split <;> simp_all

/-- A text that writes a number of 32 bits is read as that number. -/
theorem readCount_of_writes (writes : WritesNumber text n) (held : n < UInt32.size) :
    readCount text = .ok (UInt32.ofNat n) := by
  have value := writes.value
  subst value
  -- Nothing is left behind the digits.
  have read : countFrom 0 (unsigned text ++ []) = _ := countFrom_append writes.digits held
  rw [List.append_nil] at read
  rw [readCount_eq writes.nonempty, read, countFrom]

/-- A text that writes a number of more than 32 bits is refused for its size. -/
theorem WritesNumber.tooLarge (writes : WritesNumber text n) (large : UInt32.size ≤ n) :
    NotCount text .tooLarge :=
  .tooLarge (List.append_nil _).symm writes.digits (writes.value ▸ large)

/-- A text that is not a count is refused for what it is not. -/
theorem readCount_of_notCount {reason : CountError} (fails : NotCount text reason) :
    readCount text = .error reason := by
  cases fails with
  | empty nothing => rw [nothing, readCount]
  | loneSign sign => rw [sign, readCount]
  | notDigit split read held other =>
    rw [readCount_eq (by simp [split]), split, countFrom_append read held, countFrom, digit?_ten,
      other]
    rfl
  | tooLarge split read large =>
    have present : unsigned text ≠ [] := by
      -- No digits at all write zero, which is not large.
      intro nothing
      obtain ⟨rfl, -⟩ := List.append_eq_nil_iff.mp (split.symm.trans nothing)
      exact absurd large (by decide)
    rw [readCount_eq present, split, countFrom_of_large (by decide) read large]

/-- A text writes a number that 32 bits can hold, or there is a reason why it is not a count. -/
theorem writesNumber_or_notCount (text : List Char) :
    (∃ n < UInt32.size, WritesNumber text n) ∨ ∃ reason, NotCount text reason := by
  by_cases present : unsigned text = []
  · -- Without digits there is a sign at most.
    unfold unsigned at present
    split at present
    · subst present
      exact .inr ⟨_, .loneSign rfl⟩
    · exact .inr ⟨_, .empty present⟩
  · have zero : 0 < UInt32.size := by decide
    rcases countFrom_cases zero (unsigned text) with ⟨read, held⟩ |
      ⟨digits, c, rest, split, read, held, other⟩ | ⟨digits, rest, split, read, large⟩
    · exact .inl ⟨_, held, present, read, rfl⟩
    · exact .inr ⟨_, .notDigit split read held other⟩
    · exact .inr ⟨_, .tooLarge split read large⟩

/-- A text is read as a count exactly when it writes this number. -/
theorem readCount_eq_ok_iff {count : UInt32} :
    readCount text = .ok count ↔ WritesNumber text count.toNat := by
  constructor
  · intro read
    -- A text that writes no number would have been refused.
    rcases writesNumber_or_notCount text with ⟨n, held, writes⟩ | ⟨reason, fails⟩
    · rw [readCount_of_writes writes held, Except.ok.injEq] at read
      rw [← read, UInt32.toNat_ofNat_of_lt' held]
      exact writes
    · rw [readCount_of_notCount fails] at read
      cases read
  · intro writes
    rw [readCount_of_writes writes count.toNat_lt, UInt32.ofNat_toNat]

/-- A text is refused as a count exactly for what it is not. -/
theorem readCount_eq_error_iff {reason : CountError} :
    readCount text = .error reason ↔ NotCount text reason := by
  constructor
  · intro refused
    -- A text that writes a number would have been read.
    rcases writesNumber_or_notCount text with ⟨n, held, writes⟩ | ⟨other, fails⟩
    · rw [readCount_of_writes writes held] at refused
      cases refused
    · rw [readCount_of_notCount fails] at refused
      cases refused
      exact fails
  · exact readCount_of_notCount

/-- The largest count is read behind zeros, and the number behind it is too large. -/
example : readCount "+0004294967295".toList = .ok 4294967295 ∧
    readCount "4294967296".toList = .error .tooLarge :=
  ⟨rfl, rfl⟩

/-- The text of a number is its decimal digits. -/
theorem toList_toString (n : Nat) : (toString n).toList = Nat.toDigits 10 n :=
  Nat.toList_repr

/-- The text of a number holds digits and nothing else. -/
theorem isDigit_of_mem_toString {n : Nat} {c : Char} (member : c ∈ (toString n).toList) :
    c.isDigit = true := by
  rw [toList_toString] at member
  exact Nat.isDigit_of_mem_toDigits (by decide) (by decide) member

/-- The text of a number does not open with a sign. -/
theorem toString_ne_signed (n : Nat) (digits : List Char) :
    (toString n).toList ≠ '+' :: digits := by
  intro signed
  have first : '+' ∈ (toString n).toList := signed ▸ List.mem_cons_self
  exact absurd (isDigit_of_mem_toString first) (by decide)

/-- The text of a number has no sign to take off. -/
theorem unsigned_toString (n : Nat) : unsigned (toString n).toList = (toString n).toList := by
  unfold unsigned
  split
  · -- The text would have to start with a sign.
    rename_i signed
    exact absurd signed (toString_ne_signed n _)
  · rfl

/-- A number is written by its own text. -/
theorem writesNumber_toString (n : Nat) : WritesNumber (toString n).toList n := by
  -- Its decimal digits are there, are digits, and have its value.
  constructor <;> rw [unsigned_toString]
  · rw [toList_toString]
    exact Nat.toDigits_ne_nil
  · exact fun c => isDigit_of_mem_toString
  · rw [toList_toString]
    exact Nat.ofDigitChars_toDigits (by decide) (by decide)

end GraphLoad
