import GraphLoad.Cypher.Statement
import GraphLoad.Proofs.Cypher.Quoted
import GraphLoad.Proofs.Text.Unambiguous

/-! Equal texts of clauses come from equal clauses: no name, column or file can pass for
structure. -/

namespace GraphLoad.Cypher

/-- What may stop a list with commas: neither a comma nor what would be read as part of a name. -/
def StopsList (rest : List Char) : Prop :=
  EndsName rest ∧ rest.head? ≠ some ','

/-- A character that ends a name stops a list, unless it is a comma. -/
theorem stopsList_cons {c : Char} (outside : isNameChar c = false) (mark : c ≠ '\x60')
    (other : c ≠ ',') (rest : List Char) : StopsList (c :: rest) :=
  ⟨endsName_cons outside mark rest, by simpa using other⟩

/-- Columns are unambiguous before what ends a name. -/
theorem unambiguous_column :
    Unambiguous (fun _ => True) EndsName fun name => (quoteColumn name).toList :=
  .of_read lexName (fun _ _ => String.toList_inj.mp) fun name _ _ ends => lexName_column name ends

/-- Labels, types and keys are unambiguous before what ends a name. -/
theorem unambiguous_identifier :
    Unambiguous (fun _ => True) EndsName fun name => (quoteIdentifier name).toList :=
  .of_read lexName (fun _ _ => String.toList_inj.mp) fun name _ _ ends =>
    lexName_identifier name ends

/-- File literals are unambiguous, whatever follows them. -/
theorem unambiguous_file :
    Unambiguous (fun _ => True) (fun _ => True) fun file => (fileLiteral file).toList := by
  -- Behind the opening quote and the start of every address, the literal holds the file.
  refine .of_read (fun text => readLiteral (text.drop 9)) (fun _ _ => String.toList_inj.mp) ?_
  intro file s _ _
  simpa [fileLiteral] using readLiteral_escape file.toList s

/-- A text that holds only characters of names. -/
def IsWord (text : String) : Prop :=
  ∀ c ∈ text.toList, isNameChar c = true

instance (text : String) : Decidable (IsWord text) :=
  decidable_of_iff (text.toList.all isNameChar = true) List.all_eq_true

/-- Words are unambiguous before what ends a name. -/
theorem unambiguous_word : Unambiguous IsWord EndsName String.toList := by
  refine .of_read (fun text => some (text.takeWhile isNameChar, text.dropWhile isNameChar))
    (fun _ _ => String.toList_inj.mp) fun word rest within ends => ?_
  obtain ⟨taken, left⟩ := span_word within ends
  rw [taken, left]

/-- The word that a value opens with: the name of a function, or the variable of the row. -/
def openingWord : Option Conversion → String
  | some f => f.functionName
  | none => "row"

/-- The word tells which conversion is applied, if any. -/
theorem openingWord_inj {first second : Option Conversion}
    (same : openingWord first = openingWord second) : first = second := by
  revert same
  -- No two functions share a name, and none is named like the variable of the row.
  rcases first with _ | _ | _ | _ | _ | _ | _ | _ <;>
    rcases second with _ | _ | _ | _ | _ | _ | _ | _ <;>
    simp [openingWord, Conversion.functionName]

/-- The word of a value is a word. -/
theorem isWord_openingWord (conversion : Option Conversion) : IsWord (openingWord conversion) := by
  rcases conversion with _ | _ | _ | _ | _ | _ | _ | _ <;> decide

/-- Behind the word of a value there is a mark that ends it. -/
theorem text_eq_openingWord (v : RowValue) :
    ∃ rest, v.text = openingWord v.conversion ++ rest ∧ ∀ s, EndsName (rest.toList ++ s) := by
  obtain ⟨column, conversion⟩ := v
  -- Without a conversion the word is that of the row and a dot ends it; otherwise it names a
  -- function, and a bracket does.
  cases conversion with
  | none =>
    refine ⟨"." ++ quoteColumn column, ?_, fun s => ?_⟩
    · show "row." ++ quoteColumn column = "row" ++ ("." ++ quoteColumn column)
      rw [← String.append_assoc]
      rfl
    · rw [String.toList_append, List.append_assoc]
      exact endsName_cons (by decide) (by decide) _
  | some f =>
    refine ⟨"(" ++ columnText column ++ ")", ?_, fun s => ?_⟩
    · simp only [RowValue.text, openingWord, String.append_assoc]
    · rw [String.append_assoc, String.toList_append, List.append_assoc]
      exact endsName_cons (by decide) (by decide) _

/-- What stands in front of a column tells which conversion is applied to it. -/
theorem conversion_eq_of_text {v w : RowValue} {s t : List Char}
    (same : v.text.toList ++ s = w.text.toList ++ t) : v.conversion = w.conversion := by
  obtain ⟨rest, opens, ends⟩ := text_eq_openingWord v
  obtain ⟨otherRest, otherOpens, otherEnds⟩ := text_eq_openingWord w
  rw [opens, otherOpens, String.toList_append, String.toList_append, List.append_assoc,
    List.append_assoc] at same
  -- Both words end at their marks, so they are one word.
  exact openingWord_inj (unambiguous_word (isWord_openingWord _) (isWord_openingWord _) (ends s)
    (otherEnds t) same).1

/-- Values are unambiguous before what ends a name. -/
theorem unambiguous_value :
    Unambiguous (fun _ => True) EndsName fun v : RowValue => v.text.toList := by
  rintro ⟨column, conversion⟩ ⟨other, another⟩ s t _ _ before after same
  obtain rfl : conversion = another := conversion_eq_of_text same
  cases conversion with
  | none =>
    simp only [RowValue.text, columnText, String.toList_append, List.append_assoc] at same
    obtain ⟨rfl, rfl⟩ := unambiguous_column trivial trivial before after
      (List.append_cancel_left same)
    exact ⟨rfl, rfl⟩
  | some f =>
    simp only [RowValue.text, columnText, String.toList_append, List.append_assoc,
      List.append_cancel_left_eq] at same
    -- The closing parenthesis ends the column.
    have close : ∀ rest, EndsName (")".toList ++ rest) := endsName_cons (by decide) (by decide)
    obtain ⟨rfl, rest⟩ := unambiguous_column trivial trivial (close s) (close t) same
    exact ⟨rfl, List.append_cancel_left rest⟩

/-- A key with its value behind a mark that ends a name is unambiguous before what ends a name. -/
theorem unambiguous_binding {mark : String} (ends : ∀ rest, EndsName (mark.toList ++ rest)) :
    Unambiguous (fun _ => True) EndsName fun b : Binding =>
      (quoteIdentifier b.key ++ mark ++ b.value.text).toList := by
  rintro ⟨key, value⟩ ⟨other, another⟩ s t _ _ before after same
  simp only [String.toList_append, List.append_assoc] at same
  -- The mark ends the key, and what ends the entry ends the value.
  obtain ⟨rfl, rest⟩ := unambiguous_identifier trivial trivial (ends _) (ends _) same
  obtain ⟨rfl, rfl⟩ := unambiguous_value trivial trivial before after
    (List.append_cancel_left rest)
  exact ⟨rfl, rfl⟩

/-- Items that are unambiguous before what ends a name are so in a list with commas. -/
theorem unambiguous_commas {α : Type} {Holds : α → Prop} {item : α → String}
    (single : Unambiguous Holds EndsName fun a => (item a).toList) :
    Unambiguous (fun items : List α => items ≠ [] ∧ ∀ a ∈ items, Holds a) StopsList
      fun items => (", ".intercalate (items.map item)).toList := by
  have opens : ∀ rest, EndsName (", ".toList ++ rest) := endsName_cons (by decide) (by decide)
  -- A comma ends an item, and what stops a list is no comma.
  have joined : Unambiguous (fun items : List α => items ≠ [] ∧ ∀ a ∈ items, Holds a) StopsList _ :=
    single.intercalate ", ".toList opens (fun _ stop => stop.1) fun s t stop equal =>
      stop.2 (by rw [← equal]; rfl)
  simpa only [String.toList_intercalate, List.map_map, Function.comp_def] using joined

/-- The map of a pattern is unambiguous before what stops a list. -/
theorem unambiguous_map :
    Unambiguous (· ≠ []) StopsList fun entries => (mapText entries).toList := by
  have colon : ∀ rest, EndsName (": ".toList ++ rest) := endsName_cons (by decide) (by decide)
  intro entries others s t present otherPresent
  exact unambiguous_commas (unambiguous_binding colon) ⟨present, fun _ _ => trivial⟩
    ⟨otherPresent, fun _ _ => trivial⟩

/-- A node pattern with a word for its variable and with keys to find the node by. -/
structure NodePattern.WellFormed (p : NodePattern) : Prop where
  /-- The variable is a word. -/
  var : IsWord p.var
  /-- There is a key. -/
  keys : p.keys ≠ []

/-- Node patterns are unambiguous, whatever follows them. -/
theorem unambiguous_pattern :
    Unambiguous NodePattern.WellFormed (fun _ => True) fun p => p.text.toList := by
  rintro ⟨var, label, keys⟩ ⟨otherVar, otherLabel, otherKeys⟩ s t first second _ _ same
  simp only [NodePattern.text, String.toList_append, List.append_assoc,
    List.append_cancel_left_eq] at same
  have colon : ∀ rest, EndsName (":".toList ++ rest) := endsName_cons (by decide) (by decide)
  have blank : ∀ rest, EndsName (" \x7b".toList ++ rest) := endsName_cons (by decide) (by decide)
  have close : ∀ rest, StopsList ("\x7d)".toList ++ rest) :=
    stopsList_cons (by decide) (by decide) (by decide)
  -- The parts are cut off from left to right, each by the mark that ends it.
  obtain ⟨rfl, afterVar⟩ := unambiguous_word first.var second.var (colon _) (colon _) same
  obtain ⟨rfl, afterLabel⟩ := unambiguous_identifier trivial trivial (blank _) (blank _)
    (List.append_cancel_left afterVar)
  obtain ⟨rfl, afterKeys⟩ := unambiguous_map first.keys second.keys (close s) (close t)
    (List.append_cancel_left afterLabel)
  exact ⟨rfl, List.append_cancel_left afterKeys⟩

/-- The clause that sets properties is unambiguous before what stops a list. -/
theorem unambiguous_set {var other : String} {entries others : List Binding} {s t : List Char}
    (word : IsWord var) (otherWord : IsWord other) (present : entries ≠ [])
    (otherPresent : others ≠ []) (before : StopsList s) (after : StopsList t)
    (same : (setText var entries).toList ++ s = (setText other others).toList ++ t) :
    var = other ∧ entries = others ∧ s = t := by
  have dot : ∀ rest, EndsName (".".toList ++ rest) := endsName_cons (by decide) (by decide)
  have equals : ∀ rest, EndsName (" = ".toList ++ rest) := endsName_cons (by decide) (by decide)
  -- The first assignment tells the variable, which all others then share.
  have sameVar : var = other := by
    obtain ⟨a, entries, rfl⟩ := List.exists_cons_of_ne_nil present
    obtain ⟨b, others, rfl⟩ := List.exists_cons_of_ne_nil otherPresent
    simp only [setText, assignText, List.isEmpty_cons, Bool.false_eq_true, if_false,
      String.toList_append, String.toList_intercalate, List.map_cons, intercalate_cons_eq,
      List.append_assoc, List.append_cancel_left_eq] at same
    exact (unambiguous_word word otherWord (dot _) (dot _) same).1
  subst sameVar
  -- Behind the one variable, an assignment is told by its key and value.
  have single : Unambiguous (fun _ => True) EndsName fun b : Binding =>
      (var ++ "." ++ quoteIdentifier b.key ++ " = " ++ b.value.text).toList := by
    intro a b s t _ _ before after same
    simp only [String.toList_append, List.append_assoc, List.append_cancel_left_eq] at same
    refine unambiguous_binding equals trivial trivial before after ?_
    simpa only [String.toList_append, List.append_assoc] using same
  have texts : ∀ {bs : List Binding}, bs ≠ [] → setText var bs = "SET " ++ assignText var bs := by
    intro bs filled
    simp [setText, filled]
  rw [texts present, texts otherPresent] at same
  simp only [String.toList_append, List.append_assoc, List.append_cancel_left_eq] at same
  obtain ⟨rfl, rfl⟩ := unambiguous_commas single ⟨present, fun _ _ => trivial⟩
    ⟨otherPresent, fun _ _ => trivial⟩ before after same
  exact ⟨rfl, rfl, rfl⟩

/-- A clause as the work on a row has it: variables are words, and nothing it lists is missing. -/
def Clause.WellFormed : Clause → Prop
  | find patterns => patterns ≠ [] ∧ ∀ p ∈ patterns, p.WellFormed
  | mergeNode pattern => pattern.WellFormed
  | mergeRelationship _ _ => True
  | set var assignments => IsWord var ∧ assignments ≠ []

@[simp] theorem Clause.text_find (patterns : List NodePattern) :
    (find patterns).text = "MATCH " ++ ", ".intercalate (patterns.map NodePattern.text) :=
  rfl

@[simp] theorem Clause.text_mergeNode (pattern : NodePattern) :
    (mergeNode pattern).text = "MERGE " ++ pattern.text :=
  rfl

@[simp] theorem Clause.text_mergeRelationship (type : String) (keys : List Binding) :
    (mergeRelationship type keys).text =
      "MERGE (" ++ Endpoint.source.name ++ ")-[" ++ relationshipVar ++ ":" ++ quoteIdentifier type
        ++ (if keys.isEmpty then "" else " \x7b" ++ mapText keys ++ "\x7d")
        ++ "]->(" ++ Endpoint.target.name ++ ")" :=
  rfl

@[simp] theorem Clause.text_set (var : String) (assignments : List Binding) :
    (set var assignments).text = setText var assignments :=
  rfl

/-- Clauses that find nodes are unambiguous before a line break. -/
theorem unambiguous_find {patterns others : List NodePattern} {s t : List Char}
    (first : (Clause.find patterns).WellFormed) (second : (Clause.find others).WellFormed)
    (before : StopsList s) (after : StopsList t)
    (same : (Clause.find patterns).text.toList ++ s = (Clause.find others).text.toList ++ t) :
    patterns = others ∧ s = t := by
  simp only [Clause.text_find, String.toList_append, List.append_assoc,
    List.append_cancel_left_eq] at same
  -- A pattern ends with a bracket of its own, so it does not matter what follows.
  have single : Unambiguous NodePattern.WellFormed EndsName fun p => p.text.toList :=
    fun p q s t left right _ _ => unambiguous_pattern left right trivial trivial
  exact unambiguous_commas single first second before after same

/-- Clauses that merge a relationship are unambiguous, whatever follows them. -/
theorem unambiguous_mergeRelationship {type other : String} {keys others : List Binding}
    {s t : List Char}
    (same : (Clause.mergeRelationship type keys).text.toList ++ s =
      (Clause.mergeRelationship other others).text.toList ++ t) :
    type = other ∧ keys = others ∧ s = t := by
  have bracket : ∀ rest, EndsName ("]->(".toList ++ rest) := endsName_cons (by decide) (by decide)
  have blank : ∀ rest, EndsName (" \x7b".toList ++ rest) := endsName_cons (by decide) (by decide)
  have close : ∀ rest, StopsList ("\x7d".toList ++ rest) :=
    stopsList_cons (by decide) (by decide) (by decide)
  simp only [Clause.text_mergeRelationship, String.toList_append, List.append_assoc,
    List.append_cancel_left_eq] at same
  -- A type is followed by its keys or, where there are none, by the closing bracket.
  have ends : ∀ (bs : List Binding) (rest : List Char),
      EndsName ((if bs.isEmpty then "" else " \x7b" ++ mapText bs ++ "\x7d").toList ++
        ("]->(".toList ++ rest)) := by
    intro bs rest
    split
    · exact bracket rest
    · simp only [String.toList_append, List.append_assoc]
      exact blank _
  obtain ⟨rfl, afterType⟩ := unambiguous_identifier trivial trivial (ends _ _) (ends _ _) same
  refine ⟨rfl, ?_⟩
  -- Both clauses have keys or neither has, as the mark behind the type shows.
  by_cases present : keys = [] <;> by_cases otherPresent : others = []
  · simpa [present, otherPresent] using afterType
  · simp [present, otherPresent] at afterType
  · simp [present, otherPresent] at afterType
  · simp only [List.isEmpty_iff, present, otherPresent, if_false, String.toList_append,
      List.append_assoc, List.append_cancel_left_eq] at afterType
    obtain ⟨rfl, afterKeys⟩ := unambiguous_map present otherPresent (close _) (close _) afterType
    simpa using afterKeys

/-- A node is merged in another way than a relationship. -/
theorem mergeNode_ne_mergeRelationship {p : NodePattern} (word : IsWord p.var) {type : String}
    {keys : List Binding} {s t : List Char} :
    (Clause.mergeNode p).text.toList ++ s ≠
      (Clause.mergeRelationship type keys).text.toList ++ t := by
  intro same
  have colon : ∀ rest, EndsName (":".toList ++ rest) := endsName_cons (by decide) (by decide)
  have close : ∀ rest, EndsName (")-[".toList ++ rest) := endsName_cons (by decide) (by decide)
  have opening : "MERGE (".toList = "MERGE ".toList ++ "(".toList := rfl
  simp only [Clause.text_mergeNode, Clause.text_mergeRelationship, NodePattern.text,
    String.toList_append, opening, List.append_assoc, List.append_cancel_left_eq] at same
  -- Behind its variable a node has a label, and the end of a relationship has none.
  have source : IsWord Endpoint.source.name := by decide
  obtain ⟨_, behind⟩ := unambiguous_word word source (colon _) (close _) same
  simp at behind

/-- Clauses are unambiguous before a line break. -/
theorem unambiguous_clause :
    Unambiguous Clause.WellFormed (fun rest => rest.head? = some '\n') fun c => c.text.toList := by
  intro c d s t first second before after same
  have stops : ∀ rest : List Char, rest.head? = some '\n' → StopsList rest := by
    intro rest line
    obtain ⟨more, rfl⟩ := List.head?_eq_some_iff.mp line
    exact stopsList_cons (by decide) (by decide) (by decide) more
  -- Clauses of one kind are told apart part by part, those of two kinds by their first words; only
  -- the two merges begin alike.
  cases c with
  | find patterns =>
    cases d with
    | find others =>
      obtain ⟨rfl, rfl⟩ := unambiguous_find first second (stops s before) (stops t after) same
      exact ⟨rfl, rfl⟩
    | mergeNode _ => simp at same
    | mergeRelationship _ _ => simp at same
    | set _ _ => simp [setText, second.2] at same
  | mergeNode pattern =>
    cases d with
    | find _ => simp at same
    | mergeNode other =>
      simp only [Clause.text_mergeNode, String.toList_append, List.append_assoc,
        List.append_cancel_left_eq] at same
      obtain ⟨rfl, rfl⟩ := unambiguous_pattern first second trivial trivial same
      exact ⟨rfl, rfl⟩
    | mergeRelationship _ _ => exact absurd same (mergeNode_ne_mergeRelationship first.var)
    | set _ _ => simp [setText, second.2] at same
  | mergeRelationship type keys =>
    cases d with
    | find _ => simp at same
    | mergeNode _ => exact absurd same.symm (mergeNode_ne_mergeRelationship second.var)
    | mergeRelationship other others =>
      obtain ⟨rfl, rfl, rfl⟩ := unambiguous_mergeRelationship same
      exact ⟨rfl, rfl⟩
    | set _ _ => simp [setText, second.2] at same
  | set var assignments =>
    cases d with
    | find _ => simp [setText, first.2] at same
    | mergeNode _ => simp [setText, first.2] at same
    | mergeRelationship _ _ => simp [setText, first.2] at same
    | set other others =>
      obtain ⟨rfl, rfl, rfl⟩ := unambiguous_set first.1 second.1 first.2 second.2
        (stops s before) (stops t after) same
      exact ⟨rfl, rfl⟩

end GraphLoad.Cypher
