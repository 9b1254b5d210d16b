import GraphLoad.Json.Token
import GraphLoad.Json.Writer
import Mathlib.Data.List.TakeWhile

/-! The tokens of written JSON: strings give back the characters they were written from, words and
numbers end where a value ends, and indentation leaves no trace. -/

namespace GraphLoad.Json

/-- What may stand behind a value: nothing, a comma or a line break. -/
def EndsValue (rest : List Char) : Prop :=
  ∀ c, rest.head? = some c → c = ',' ∨ c = '\n'

/-- A text is split into some tokens, whatever was found in front of it, if what may stand behind a
value follows it. -/
def Splits (text : List Char) (tokens : List Token) : Prop :=
  ∀ found rest, EndsValue rest →
    lex found .start (text ++ rest) = lex (tokens.reverse ++ found) .start rest

theorem endsValue_nil : EndsValue [] :=
  nofun

theorem endsValue_cons {c : Char} (ends : c = ',' ∨ c = '\n') (rest : List Char) :
    EndsValue (c :: rest) := by
  intro first head
  obtain rfl := Option.some.inj head
  exact ends

/-- A line break ends a value, with the indentation behind it or without. -/
theorem endsValue_newline (depth : Nat) (rest : List Char) :
    EndsValue (newline depth ++ rest) :=
  endsValue_cons (.inr rfl) _

/-- Indentation is passed over. -/
theorem lex_newline (found : List Token) (depth : Nat) (rest : List Char) :
    lex found .start (newline depth ++ rest) = lex found .start rest := by
  -- The line break is a blank like the spaces behind it.
  have spaces : ∀ count, lex found .start (List.replicate count ' ' ++ rest) =
      lex found .start rest := by
    intro count
    induction count with
    | zero => rfl
    | succ count ih =>
      rw [List.replicate_succ, List.cons_append, ← ih]
      rfl
  exact spaces (2 * depth)

/-- The four digits that a control character is written with stand for its number. -/
theorem numeral?_control :
    ∀ n < 0x20, numeral? 16 ['0', '0', hexDigit (n / 16), hexDigit (n % 16)] = some n := by
  decide

/-- The number of a control character belongs to no surrogate. -/
theorem pushUnit_control (p : Unfinished) {c : Char} (control : c.toNat < 0x20) :
    p.pushUnit c.toNat = p.push c := by
  -- Surrogates begin far above the control characters.
  unfold Unfinished.pushUnit
  rw [if_neg (by omega), if_neg (by omega), Char.ofNat_toNat]

/-- Within a string each character is read back from what it is written as. -/
theorem lex_escape (found : List Token) (p : Unfinished) (c : Char) (rest : List Char) :
    lex found (.string p) (escape c ++ rest) = lex found (.string (p.push c)) rest := by
  -- One case for each form of the writer; all but the last two are a backslash and a letter.
  unfold escape
  split_ifs with quote slash back form line return_ tab control
  · subst quote; rfl
  · subst slash; rfl
  · subst back; rfl
  · subst form; rfl
  · subst line; rfl
  · subst return_; rfl
  · subst tab; rfl
  · have unit := numeral?_control c.toNat control
    simp only [List.cons_append, List.nil_append, lex, unit, Option.bind_eq_bind,
      Option.bind_some, pushUnit_control p control]
  · simp [lex, slash, control]

/-- A string gives back the text it was written from, whatever follows. -/
theorem lex_quote (found : List Token) (text : String) (rest : List Char) :
    lex found .start (quote text ++ rest) =
      lex (.string (some text.toList) :: found) .start rest := by
  -- The characters read so far are kept backwards, and no surrogate waits for its partner.
  have general : ∀ chars read : List Char,
      lex found (.string { chars := read }) (chars.flatMap escape ++ '"' :: rest) =
        lex (.string (some (read.reverse ++ chars)) :: found) .start rest := by
    intro chars
    induction chars with
    | nil =>
      intro read
      rw [List.append_nil]
      rfl
    | cons c chars ih =>
      intro read
      -- A character that was read joins those read before.
      have pushed : ({ chars := read } : Unfinished).push c = { chars := c :: read } := rfl
      rw [List.flatMap_cons, List.append_assoc, lex_escape, pushed, ih, List.reverse_cons,
        List.append_assoc, List.singleton_append]
  unfold quote
  rw [List.cons_append, List.append_assoc, List.singleton_append]
  exact general text.toList []

/-- A string is split into the one token that holds its text. -/
theorem splits_quote (text : String) : Splits (quote text) [.string (some text.toList)] :=
  fun found rest _ => lex_quote found text rest

/-- A word ends where a value ends. -/
theorem lex_word {letters : List Char} {token : Token} (known : word? letters.reverse = some token)
    (found : List Token) {rest : List Char} (ends : EndsValue rest) :
    lex found (.word letters) rest = lex (token :: found) .start rest := by
  -- Neither a comma nor a line break is a letter, so the word is complete in front of them.
  cases rest with
  | nil => simp [lex, known]
  | cons c rest =>
    rcases ends c rfl with rfl | rfl
    · simp only [lex, known]
      rfl
    · simp only [lex, known]
      rfl

/-- The word for nothing is split into its token. -/
theorem splits_null : Splits "null".toList [.null] :=
  -- The letters read so far are kept backwards.
  have known : word? "llun".toList.reverse = some .null := rfl
  fun found _ ends => lex_word known found ends

/-- The words for the truth values are split into their tokens. -/
theorem splits_flag (value : Bool) : Splits (toString value).toList [.flag value] := by
  intro found rest ends
  -- A word is looked up with its last character first, as the reader has gathered it.
  cases value with
  | true =>
    have known : word? "eurt".toList.reverse = some (.flag true) := rfl
    exact lex_word known found ends
  | false =>
    have known : word? "eslaf".toList.reverse = some (.flag false) := rfl
    exact lex_word known found ends

/-- A digit may stand in a number. -/
theorem isNumberChar_of_isDigit {c : Char} (digit : c.isDigit = true) : isNumberChar c = true := by
  simp [isNumberChar, digit]

/-- Digits and what follows them hold nothing but characters of numbers, if what follows does. -/
theorem all_of_afterDigits {text : List Char} {next : List Char → Bool}
    (accepted : (afterDigits text).any next = true)
    (rest : ∀ after, next after = true → after.all isNumberChar = true) :
    text.all isNumberChar = true ∧ text ≠ [] := by
  cases text with
  | nil => cases accepted
  | cons c tail =>
    unfold afterDigits at accepted
    split at accepted
    · rename_i same
      obtain ⟨rfl, rfl⟩ := List.cons.inj same
      split at accepted
      · refine ⟨?_, List.cons_ne_nil _ _⟩
        -- The digits are taken off the front, and what is left is accepted.
        rw [← List.takeWhile_append_dropWhile (p := Char.isDigit) (l := c :: tail), List.all_append,
          rest _ accepted, Bool.and_true, List.all_eq_true]
        exact fun d member => isNumberChar_of_isDigit (List.mem_takeWhile_imp member)
      · cases accepted
    · cases accepted

/-- An exponent holds nothing but characters of numbers. -/
theorem all_of_isExponent {text : List Char} (exponent : isExponent text = true) :
    text.all isNumberChar = true := by
  -- Digits that are read to the end are all there is.
  have digits : ∀ digits : List Char, (afterDigits digits == some []) = true →
      digits.all isNumberChar = true := by
    intro digits whole
    have behind : (afterDigits digits).any List.isEmpty = true := by
      rw [beq_iff_eq.mp whole]
      rfl
    refine (all_of_afterDigits behind fun after none_ => ?_).1
    rw [List.isEmpty_iff.mp none_]
    rfl
  unfold isExponent at exponent
  split at exponent
  · rfl
  · rename_i e rest
    obtain ⟨mark, behind⟩ := Bool.and_eq_true_iff.mp exponent
    have first : isNumberChar e = true := by
      rcases Bool.or_eq_true_iff.mp mark with small | capital
      · simp [isNumberChar, small]
      · simp [isNumberChar, capital]
    rw [List.all_cons, first, Bool.true_and]
    split at behind
    -- A sign may stand in front of the digits.
    · exact Bool.and_eq_true_iff.mpr ⟨rfl, digits _ behind⟩
    · exact Bool.and_eq_true_iff.mpr ⟨rfl, digits _ behind⟩
    · exact digits _ behind

/-- A fraction with its exponent holds nothing but characters of numbers. -/
theorem all_of_isFraction {text : List Char} (fraction : isFraction text = true) :
    text.all isNumberChar = true := by
  unfold isFraction at fraction
  split at fraction
  · exact (all_of_afterDigits fraction fun _ => all_of_isExponent).1
  · exact all_of_isExponent fraction

/-- An unsigned number has characters, and only those of numbers. -/
theorem all_of_isUnsigned {text : List Char} (unsigned : isUnsigned text = true) :
    text.all isNumberChar = true ∧ text ≠ [] := by
  unfold isUnsigned at unsigned
  -- A leading zero stands alone before the fraction, and other digits are read to their end.
  split at unsigned
  · have behind := all_of_isFraction unsigned
    exact ⟨Bool.and_eq_true_iff.mpr ⟨rfl, behind⟩, List.cons_ne_nil _ _⟩
  · exact all_of_afterDigits unsigned fun _ => all_of_isFraction

/-- A number has characters, and only those of numbers. -/
theorem all_of_isNumber {text : List Char} (numeral : isNumber text = true) :
    text.all isNumberChar = true ∧ text ≠ [] := by
  unfold isNumber at numeral
  split at numeral
  · exact ⟨(all_of_isUnsigned numeral).1, List.cons_ne_nil _ _⟩
  · exact all_of_isUnsigned numeral

/-- A number ends where a value ends. -/
theorem lex_number {rest : List Char} (ends : EndsValue rest) (found : List Token)
    (chars : List Char) : ∀ read, chars.all isNumberChar = true →
      isNumber (read.reverse ++ chars) = true →
      lex found (.number read) (chars ++ rest) =
        lex (.number (read.reverse ++ chars) :: found) .start rest := by
  -- The characters read so far are kept backwards, as those of a string are.
  induction chars with
  | nil =>
    intro read _ numeral
    rw [List.append_nil] at numeral ⊢
    have known : number? read.reverse = some (.number read.reverse) := if_pos numeral
    -- The number ends with the text, or at a mark behind values.
    cases rest with
    | nil => simp [lex, known]
    | cons c rest =>
      rcases ends c rfl with rfl | rfl
      · simp only [List.nil_append, lex, known]
        rfl
      · simp only [List.nil_append, lex, known]
        rfl
  | cons c chars ih =>
    intro read within numeral
    obtain ⟨first, others⟩ := Bool.and_eq_true_iff.mp within
    -- One more character goes to those read so far.
    have moved : (c :: read).reverse ++ chars = read.reverse ++ c :: chars := by simp
    rw [← moved] at numeral ⊢
    rw [← ih (c :: read) others numeral, List.cons_append, lex, if_pos first]

/-- A number is split into the one token that holds it as it is written. -/
theorem splits_number {literal : List Char} (numeral : isNumber literal = true) :
    Splits literal [.number literal] := by
  intro found rest ends
  obtain ⟨within, nonempty⟩ := all_of_isNumber numeral
  obtain ⟨c, chars, rfl⟩ := List.exists_cons_of_ne_nil nonempty
  obtain ⟨first, others⟩ := Bool.and_eq_true_iff.mp within
  -- The first character is neither a blank nor a quote, so it starts a number.
  have solid : isSpace c = false := by
    by_contra blank
    simp only [Bool.not_eq_false, isSpace, Bool.or_eq_true, beq_iff_eq] at blank
    rcases blank with ((rfl | rfl) | rfl) | rfl
    all_goals exact absurd first (by decide)
  have unquoted : c ≠ '"' := by
    rintro rfl
    exact absurd first (by decide)
  -- The other characters go on with the number.
  have read := lex_number ends found chars [c] others numeral
  rw [List.cons_append, lex, if_neg (by simp [solid]), if_neg unquoted, if_pos first, read]
  rfl

end GraphLoad.Json
