import GraphLoad.Cypher.Statement
import Mathlib.Data.List.Basic

/-! Names and literals read back as what was written, whatever follows them. -/

namespace GraphLoad.Cypher

/-- What may follow a name: no character that would be read as a part of it. -/
def EndsName (rest : List Char) : Prop :=
  ∀ c, rest.head? = some c → isNameChar c = false ∧ c ≠ '\x60'

/-- A character that is neither part of a bare name nor a backtick ends a name. -/
theorem endsName_cons {c : Char} (outside : isNameChar c = false) (mark : c ≠ '\x60')
    (rest : List Char) : EndsName (c :: rest) := by
  intro first head
  obtain rfl := Option.some.inj head
  exact ⟨outside, mark⟩

/-- Taking the characters of a word from a text stops where the word ends. -/
theorem span_word {word : List Char} (within : ∀ c ∈ word, isNameChar c = true)
    {rest : List Char} (ends : EndsName rest) :
    (word ++ rest).takeWhile isNameChar = word ∧ (word ++ rest).dropWhile isNameChar = rest := by
  rw [List.takeWhile_append_of_pos within, List.dropWhile_append_of_pos within]
  -- Nothing of the rest belongs to the word, as its first character does not.
  cases rest with
  | nil => simp
  | cons c rest => simp [(ends c rfl).1]

/-- A bare name is read up to the end of its characters. -/
theorem lexName_word {word : List Char} (nonempty : word ≠ [])
    (within : ∀ c ∈ word, isNameChar c = true) {rest : List Char} (ends : EndsName rest) :
    lexName (word ++ rest) = some (word, rest) := by
  obtain ⟨taken, left⟩ := span_word within ends
  obtain ⟨c, tail, rfl⟩ := List.exists_cons_of_ne_nil nonempty
  -- A name character is no backtick, so the name is read as a bare one.
  have bare : c ≠ '\x60' := by
    rintro rfl
    exact absurd (within _ List.mem_cons_self) (by decide)
  rw [List.cons_append] at taken left ⊢
  rw [lexName, taken, left]
  intro other same
  exact bare (List.cons.inj same).1

/-- Reading a name between backticks undoes the doubling and stops at the single backtick. -/
theorem lexBackticked_doubleBackticks (name : List Char) {rest : List Char}
    (ends : EndsName rest) :
    lexBackticked (doubleBackticks name ++ '\x60' :: rest) = some (name, rest) := by
  induction name with
  | nil =>
    -- The closing backtick is not doubled by what follows.
    cases rest with
    | nil => rfl
    | cons c rest =>
      have single := (ends c rfl).2
      simp [doubleBackticks, lexBackticked, single]
  | cons c name ih =>
    simp only [doubleBackticks, List.flatMap_cons] at ih ⊢
    by_cases mark : c = '\x60'
    · subst mark
      simp [lexBackticked, ih]
    · simp [mark, lexBackticked, ih]

/-- A name between backticks reads back. -/
theorem lexName_backticked (name : List Char) {rest : List Char} (ends : EndsName rest) :
    lexName (backticked name ++ rest) = some (name, rest) := by
  have read := lexBackticked_doubleBackticks name ends
  simpa [backticked, lexName] using read

/-- A bare column has characters, and only those of names. -/
theorem isBareColumn_iff {name : List Char} :
    isBareColumn name = true ↔ name ≠ [] ∧ ∀ c ∈ name, isNameChar c = true := by
  simp [isBareColumn]

/-- A column reads back from the text it is written as. -/
theorem lexName_column (name : String) {rest : List Char} (ends : EndsName rest) :
    lexName ((quoteColumn name).toList ++ rest) = some (name.toList, rest) := by
  unfold quoteColumn
  -- A bare name ends with its characters, and any other at its last backtick.
  split
  · rename_i bare
    obtain ⟨nonempty, within⟩ := isBareColumn_iff.mp bare
    exact lexName_word nonempty within ends
  · rw [String.toList_ofList]
    exact lexName_backticked name.toList ends

/-- A label, type or key reads back from the text it is written as. -/
theorem lexName_identifier (name : String) {rest : List Char} (ends : EndsName rest) :
    lexName ((quoteIdentifier name).toList ++ rest) = some (name.toList, rest) := by
  unfold quoteIdentifier
  split
  · -- The reader does not mind that the name starts with no digit.
    rename_i bare
    simp only [isBareIdentifier, Bool.and_eq_true] at bare
    obtain ⟨nonempty, within⟩ := isBareColumn_iff.mp bare.1
    exact lexName_word nonempty within ends
  · rw [String.toList_ofList]
    exact lexName_backticked name.toList ends

/-- A label, type or key is written as a text that does not start with a digit. -/
theorem quoteIdentifier_eq_cons (name : String) :
    ∃ c rest, (quoteIdentifier name).toList = c :: rest ∧ c.isDigit = false := by
  unfold quoteIdentifier
  split
  · -- A name that is written bare has a first character, which was looked at.
    rename_i bare
    simp only [isBareIdentifier, Bool.and_eq_true] at bare
    obtain ⟨nonempty, -⟩ := isBareColumn_iff.mp bare.1
    obtain ⟨c, rest, letters⟩ := List.exists_cons_of_ne_nil nonempty
    exact ⟨c, rest, letters, by simpa [letters] using bare.2⟩
  · exact ⟨'\x60', _, String.toList_ofList, rfl⟩

/-- A column, label, type or key reads back from its text, whatever follows that could not be part
of it, and what follows is left. The text of a label, type or key never starts with a digit. -/
theorem quoted_names_read_back (name : String) :
    (∀ rest, EndsName rest →
      lexName ((quoteColumn name).toList ++ rest) = some (name.toList, rest) ∧
        lexName ((quoteIdentifier name).toList ++ rest) = some (name.toList, rest)) ∧
      ∃ c rest, (quoteIdentifier name).toList = c :: rest ∧ c.isDigit = false := by
  constructor
  · intro rest ends
    exact ⟨lexName_column name ends, lexName_identifier name ends⟩
  · exact quoteIdentifier_eq_cons name

/-- A name of a digit, a lone backtick and a line break reads back in front of a map. -/
theorem quoted_names_read_back_digit :
    EndsName " \x7bid".toList ∧
      lexName ((quoteColumn "2\x60\n").toList ++ " \x7bid".toList) =
        some ("2\x60\n".toList, " \x7bid".toList) ∧
      lexName ((quoteIdentifier "2\x60\n").toList ++ " \x7bid".toList) =
        some ("2\x60\n".toList, " \x7bid".toList) := by
  have ends : EndsName " \x7bid".toList := endsName_cons (by decide) (by decide) _
  exact ⟨ends, (quoted_names_read_back "2\x60\n").1 _ ends⟩

/-- Reading a literal undoes the marks and stops at the quote that has none. -/
theorem readLiteral_escape (text rest : List Char) :
    readLiteral (escapeLiteral text ++ '\'' :: rest) = some (text, rest) := by
  induction text with
  | nil => rfl
  | cons c text ih =>
    simp only [escapeLiteral, List.flatMap_cons] at ih ⊢
    -- A marked character is read past its mark, and any other as it is.
    by_cases special : c = '\\' ∨ c = '\''
    · simp [special, readLiteral, ih]
    · obtain ⟨slash, quote⟩ := not_or.mp special
      simp [slash, quote, readLiteral, ih]

/-- The literal of a file is its address between quotes. -/
theorem toList_fileLiteral (file : String) :
    (fileLiteral file).toList =
      '\'' :: (escapeLiteral ("file:///".toList ++ file.toList) ++ ['\'']) := by
  -- Nothing in the start of an address needs a backslash.
  simp [fileLiteral, escapeLiteral]

end GraphLoad.Cypher
