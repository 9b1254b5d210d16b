import GraphLoad.Cypher.Constraint
import GraphLoad.Cypher.Script
import GraphLoad.Proofs.Cypher.BulkStatement
import GraphLoad.Proofs.Cypher.ConstraintName

/-! Texts that a reader of scripts passes without ending a statement or starting a comment, and is
outside of quotes again behind them. -/

namespace GraphLoad.Cypher

/-- Whether a character matters to the reader outside of quotes: a semicolon ends a statement, and a
slash may start a comment. -/
def isSignal (c : Char) : Bool :=
  c == ';' || c == '/'

/-- Where the reader is behind a text, unless a signal outside of quotes is met in it. -/
def ScanMode.after (mode : ScanMode) : List Char → Option ScanMode
  | [] => some mode
  | c :: rest => if mode = .plain ∧ isSignal c then none else (mode.next c).after rest

/-- A text is read by reading its parts one behind the other. -/
theorem ScanMode.after_append (mode : ScanMode) (first second : List Char) :
    mode.after (first ++ second) = (mode.after first).bind (·.after second) := by
  induction first generalizing mode with
  | nil => rfl
  | cons c first ih =>
    simp only [List.cons_append, after]
    -- Either reading stops at this character, whatever follows, or it goes on in the next mode.
    split
    · rfl
    · exact ih (mode.next c)

/-- No statement ends in the text, no comment starts in it, and nothing that it opens is left open.
-/
def Inert (text : String) : Prop :=
  ScanMode.plain.after text.toList = some .plain

instance (text : String) : Decidable (Inert text) :=
  inferInstanceAs (Decidable (_ = _))

/-- Inert texts are inert one behind the other. -/
theorem Inert.append {first second : String} (left : Inert first) (right : Inert second) :
    Inert (first ++ second) := by
  unfold Inert at left right ⊢
  rw [String.toList_append, ScanMode.after_append, left]
  exact right

/-- Inert texts are inert when they are joined by an inert one. -/
theorem Inert.intercalate {separator : String} (between : Inert separator) {texts : List String}
    (each : ∀ text ∈ texts, Inert text) : Inert (separator.intercalate texts) := by
  induction texts with
  | nil => rfl
  | cons text others ih =>
    obtain ⟨first, rest⟩ := List.forall_mem_cons.mp each
    -- A separator follows a text only if another text follows the separator.
    by_cases alone : others = []
    · rw [alone, String.intercalate_singleton]
      exact first
    · rw [String.intercalate_cons_of_ne_nil alone]
      exact (first.append between).append (ih rest)

/-- A text is inert if all its characters are of a kind that backticks, quotes, semicolons and
slashes are not of. -/
theorem inert_of_forall {text : String} {kind : Char → Bool}
    (within : ∀ c ∈ text.toList, kind c = true) (mark : kind '\x60' = false)
    (quote : kind '\'' = false) (semicolon : kind ';' = false) (slash : kind '/' = false) :
    Inert text := by
  unfold Inert
  generalize text.toList = chars at within ⊢
  -- Each character leaves the reader in plain mode.
  induction chars with
  | nil => rfl
  | cons c rest ih =>
    obtain ⟨first, others⟩ := List.forall_mem_cons.mp within
    -- None of the four characters that change or end the mode is of the kind.
    have noMark : c ≠ '\x60' := by
      rintro rfl
      simp [first] at mark
    have noQuote : c ≠ '\'' := by
      rintro rfl
      simp [first] at quote
    have noSemicolon : c ≠ ';' := by
      rintro rfl
      simp [first] at semicolon
    have noSlash : c ≠ '/' := by
      rintro rfl
      simp [first] at slash
    simp [ScanMode.after, ScanMode.next, isSignal, noMark, noQuote, noSemicolon, noSlash, ih others]

/-- Words are inert. -/
theorem inert_word {word : String} (within : IsWord word) : Inert word :=
  inert_of_forall within (by decide) (by decide) (by decide) (by decide)

/-- The digits of a number are inert. -/
theorem inert_toString (n : Nat) : Inert (toString n) :=
  inert_of_forall (fun _ => isDigit_of_mem_toString) (by decide) (by decide) (by decide) (by decide)

/-- A text between quotes is inert, if the reader is still between them behind the text. -/
theorem inert_quoted {mode : ScanMode} {opening text closing : List Char}
    (opens : ScanMode.plain.after opening = some mode) (within : mode.after text = some mode)
    (closes : mode.after closing = some .plain) :
    Inert (String.ofList (opening ++ (text ++ closing))) := by
  unfold Inert
  rw [String.toList_ofList, ScanMode.after_append, opens, Option.bind_some, ScanMode.after_append,
    within, Option.bind_some, closes]

/-- Between backticks, a name whose backticks are doubled is not left. -/
theorem after_doubleBackticks (name : List Char) :
    ScanMode.name.after (doubleBackticks name) = some .name := by
  induction name with
  | nil => rfl
  | cons c rest ih =>
    -- The first of two backticks closes the name, and the second opens it again.
    rw [doubleBackticks, List.flatMap_cons, ← doubleBackticks, ScanMode.after_append]
    by_cases mark : c = '\x60' <;> simp [mark, ScanMode.after, ScanMode.next, isSignal, ih]

/-- Names between backticks are inert, whatever characters they hold. -/
theorem inert_backticked (name : List Char) : Inert (String.ofList (backticked name)) := by
  -- The first backtick opens the name, doubled ones stay within it, and the last one closes it.
  have opens : ScanMode.plain.after ['\x60'] = some .name := by decide
  have closes : ScanMode.name.after ['\x60'] = some .plain := by decide
  have parts : backticked name = ['\x60'] ++ (doubleBackticks name ++ ['\x60']) := rfl
  rw [parts]
  exact inert_quoted opens (after_doubleBackticks name) closes

/-- Columns are inert. -/
theorem inert_column (name : String) : Inert (quoteColumn name) := by
  unfold quoteColumn
  -- A bare name is a word, and any other stands between backticks.
  split
  · rename_i bare
    exact inert_word (isBareColumn_iff.mp bare).2
  · exact inert_backticked _

/-- Labels, types and keys are inert. -/
theorem inert_identifier (name : String) : Inert (quoteIdentifier name) := by
  unfold quoteIdentifier
  split
  · -- A name that is bare as a label is bare as a column as well.
    rename_i bare
    have column : isBareColumn name.toList = true := (Bool.and_eq_true_iff.mp bare).1
    exact inert_word (isBareColumn_iff.mp column).2
  · exact inert_backticked _

/-- In a literal, an escaped text does not lead out of the literal. -/
theorem after_escapeLiteral (text : List Char) :
    ScanMode.literal.after (escapeLiteral text) = some .literal := by
  induction text with
  | nil => rfl
  | cons c rest ih =>
    -- A quote or a backslash has a backslash in front, which takes the reader past it.
    rw [escapeLiteral, List.flatMap_cons, ← escapeLiteral, ScanMode.after_append]
    by_cases marked : c = '\\' ∨ c = '\''
    · simp [marked, ScanMode.after, ScanMode.next, ih]
    · simp [ScanMode.after, ScanMode.next, ih, not_or.mp marked]

/-- The literal that names a file is inert, whatever characters the name holds. -/
theorem inert_file (file : String) : Inert (fileLiteral file) := by
  -- The first quote opens the literal, marked ones stay within it, and the last one closes it.
  have opens : ScanMode.plain.after "'file:///".toList = some .literal := by decide
  have closes : ScanMode.literal.after "'".toList = some .plain := by decide
  have parts : fileLiteral file =
      String.ofList ("'file:///".toList ++ (escapeLiteral file.toList ++ "'".toList)) := by
    simp [fileLiteral, ← String.toList_inj]
  rw [parts]
  exact inert_quoted opens (after_escapeLiteral file.toList) closes

/-- Values are inert. -/
theorem inert_value (v : RowValue) : Inert v.text := by
  have read : Inert (columnText v.column) := .append (by decide) (inert_column _)
  -- A conversion is called on the column that is read.
  unfold RowValue.text
  split
  · rename_i f _
    have called : Inert f.functionName := by cases f <;> decide
    exact ((called.append (by decide)).append read).append (by decide)
  · exact read

/-- The map of a pattern is inert. -/
theorem inert_map (entries : List Binding) : Inert (mapText entries) := by
  refine .intercalate (by decide) fun text member => ?_
  obtain ⟨b, _, rfl⟩ := List.mem_map.mp member
  exact ((inert_identifier b.key).append (by decide)).append (inert_value b.value)

/-- Assignments to the properties of a variable are inert. -/
theorem inert_assign {var : String} (word : IsWord var) (entries : List Binding) :
    Inert (assignText var entries) := by
  refine .intercalate (by decide) fun text member => ?_
  obtain ⟨b, _, rfl⟩ := List.mem_map.mp member
  -- Variable, key and value are inert, and the marks between them are no signals.
  have target : Inert (var ++ "." ++ quoteIdentifier b.key) :=
    ((inert_word word).append (by decide)).append (inert_identifier b.key)
  exact (target.append (by decide)).append (inert_value b.value)

/-- Node patterns with words for their variables are inert. -/
theorem inert_pattern {p : NodePattern} (word : IsWord p.var) : Inert p.text := by
  have opening : Inert ("(" ++ p.var) := .append (by decide) (inert_word word)
  have labelled : Inert ("(" ++ p.var ++ ":" ++ quoteIdentifier p.label) :=
    (opening.append (by decide)).append (inert_identifier _)
  exact ((labelled.append (by decide)).append (inert_map _)).append (by decide)

/-- The clauses of the work on a row are inert. -/
theorem inert_clause {c : Clause} (wellFormed : c.WellFormed) : Inert c.text := by
  -- Each clause opens with fixed words, and goes on with patterns, maps or assignments.
  cases c with
  | find patterns =>
    refine .append (by decide) (.intercalate (by decide) fun text member => ?_)
    obtain ⟨p, listed, rfl⟩ := List.mem_map.mp member
    exact inert_pattern (wellFormed.2 p listed).var
  | mergeNode pattern => exact .append (by decide) (inert_pattern wellFormed.var)
  | mergeRelationship type keys =>
    have typed : Inert ("MERGE (" ++ Endpoint.source.name ++ ")-[" ++ relationshipVar ++ ":"
        ++ quoteIdentifier type) := .append (by decide) (inert_identifier type)
    -- A relationship without keys has no map.
    have mapped : Inert (if keys.isEmpty then "" else " \x7b" ++ mapText keys ++ "\x7d") := by
      split
      · rfl
      · exact (Inert.append (by decide) (inert_map keys)).append (by decide)
    exact (((typed.append mapped).append (by decide)).append (by decide)).append (by decide)
  | set var assignments =>
    simp only [Clause.text_set, setText, List.isEmpty_iff, wellFormed.2, if_false]
    exact .append (by decide) (inert_assign wellFormed.1 assignments)

/-- The names of constraints are words. -/
theorem isWord_constraintName (c : Constraint) : IsWord c.name := by
  -- Their characters are among those of bare names.
  have named : ∀ d : Char, isConstraintChar d = true → isNameChar d = true := by
    intro d
    simp only [isConstraintChar, isNameChar, Bool.or_eq_true, Bool.and_eq_true]
    tauto
  intro d member
  exact named d (isConstraintChar_of_isConstraintName c.isConstraintName_name d member)

/-- What a constraint speaks of is inert. -/
theorem inert_elementPattern (element : ElementRef) : Inert (elementPattern element) := by
  cases element with
  | node label => exact (Inert.append (by decide) (inert_identifier label)).append (by decide)
  | relationship type =>
    exact (Inert.append (by decide) (inert_identifier type)).append (by decide)

/-- What a constraint demands is inert. -/
theorem inert_demand (c : Constraint) : Inert c.demand := by
  -- A property is written as a variable, a dot and a quoted name.
  have property : ∀ (element : ElementRef) (name : String), Inert (propertyText element name) := by
    intro element name
    have var : Inert (elementVar element) := by
      cases element with
      | node => show Inert "n"; decide
      | relationship => show Inert "r"; decide
    exact (var.append (by decide)).append (inert_identifier name)
  -- But for the names of the properties, a demand is made of fixed words.
  cases c with
  | unique element name => exact (property element name).append (by decide)
  | key element names =>
    have listed : Inert (", ".intercalate (names.map (propertyText element))) := by
      refine .intercalate (by decide) fun text member => ?_
      obtain ⟨name, _, rfl⟩ := List.mem_map.mp member
      exact property element name
    have words : Inert (keyWords element) := by
      cases element with
      | node => show Inert "NODE KEY"; decide
      | relationship => show Inert "RELATIONSHIP KEY"; decide
    exact ((Inert.append (by decide) listed).append (by decide)).append words

end GraphLoad.Cypher
