import GraphLoad.Proofs.Cypher.Inert

/-! Joined statements split back: a text is cut off where its only semicolon outside of quotes
stands, which for constraints and for work on files is at the end. -/

namespace GraphLoad.Cypher

/-- An empty text in front changes nothing. -/
theorem putFront_nil (cut : List (List Char) × List Char) : putFront [] cut = cut := by
  obtain ⟨_ | _, left⟩ := cut <;> rfl

/-- Putting two texts in front is putting the joined text in front. -/
theorem putFront_putFront (first second : List Char) (cut : List (List Char) × List Char) :
    putFront first (putFront second cut) = putFront (first ++ second) cut := by
  obtain ⟨_ | _, left⟩ := cut <;> simp [putFront]

/-- A text in which no statement ends goes to the front of what is cut behind it. -/
theorem cutStatements_append {mode behind : ScanMode} {text : List Char}
    (passed : mode.after text = some behind) (rest : List Char) :
    cutStatements mode (text ++ rest) = putFront text (cutStatements behind rest) := by
  -- The reader takes up one character after the other and changes its mode on the way.
  induction text generalizing mode with
  | nil =>
    obtain rfl := Option.some.inj passed
    exact (putFront_nil _).symm
  | cons c text ih =>
    simp only [ScanMode.after] at passed
    split at passed
    · cases passed
    · rename_i goesOn
      have noEnd : ¬ (mode = .plain ∧ c = ';') := by
        rintro ⟨plain, rfl⟩
        exact goesOn ⟨plain, rfl⟩
      rw [List.cons_append, cutStatements, if_neg noEnd, ih passed, putFront_putFront]
      rfl

/-- A text whose last character ends a statement, and no other does. -/
def EndsOnce (text : String) : Prop :=
  ∃ body, Inert body ∧ text = body ++ ";"

/-- An inert text in front of a statement belongs to it. -/
theorem EndsOnce.after_inert {text front : String} (once : EndsOnce text) (before : Inert front) :
    EndsOnce (front ++ text) := by
  obtain ⟨body, inert, rfl⟩ := once
  exact ⟨front ++ body, before.append inert, (String.append_assoc).symm⟩

/-- Texts that each end once are cut off one by one. -/
theorem cutStatements_flatMap {texts : List String} (each : ∀ text ∈ texts, EndsOnce text)
    (rest : List Char) :
    cutStatements .plain (texts.flatMap String.toList ++ rest) =
      (texts.map String.toList ++ (cutStatements .plain rest).1,
        (cutStatements .plain rest).2) := by
  -- Behind each text the reader is in plain mode again, and so at the start of the next one.
  induction texts with
  | nil => rfl
  | cons text texts ih =>
    obtain ⟨⟨body, inert, ended⟩, others⟩ := List.forall_mem_cons.mp each
    rw [List.flatMap_cons, List.append_assoc, ended, String.toList_append, List.append_assoc,
      cutStatements_append inert]
    -- The semicolon is the first of what is left, and the cut is made behind it.
    simp [cutStatements, putFront, ih others]

/-- A text that is cut off as it is: it ends once, and there is no blank in front. -/
structure IsStatement (text : String) : Prop where
  /-- Its last character ends it, and no other does. -/
  once : EndsOnce text
  /-- There is no blank in front. -/
  flush : text.toList.dropWhile isBlank = text.toList

/-- Statements joined by blank lines, with a line break at the end, split back into the statements
and leave nothing. -/
theorem splitScript_intercalate {statements : List String}
    (each : ∀ text ∈ statements, IsStatement text) :
    splitScript ("\n\n".intercalate statements ++ "\n") = (statements, "") := by
  cases statements with
  | nil => decide
  | cons first others =>
    -- A script is its first statement, and each other one behind an empty line.
    have parts : ("\n\n".intercalate (first :: others) ++ "\n").toList =
        (first :: others.map ("\n\n" ++ ·)).flatMap String.toList ++ "\n".toList := by
      simp [String.toList_intercalate, intercalate_cons_eq, List.flatMap_map]
    obtain ⟨firstIs, othersAre⟩ := List.forall_mem_cons.mp each
    -- The lines between two statements are cut off with the second and dropped from its front.
    have ends : ∀ text ∈ first :: others.map ("\n\n" ++ ·), EndsOnce text := by
      have gap : Inert "\n\n" := by decide
      rw [List.forall_mem_cons, List.forall_mem_map]
      exact ⟨firstIs.once, fun text member => (othersAre text member).once.after_inert gap⟩
    have dropped : ∀ text ∈ others,
        String.ofList (("\n\n" ++ text).toList.dropWhile isBlank) = text := by
      intro text member
      have gap : ∀ c ∈ "\n\n".toList, isBlank c = true := List.all_eq_true.mp (by decide)
      rw [String.toList_append, List.dropWhile_append_of_pos gap, (othersAre text member).flush,
        String.ofList_toList]
    have left : cutStatements .plain "\n".toList = ([], "\n".toList) := by decide
    unfold splitScript
    rw [parts, cutStatements_flatMap ends, left]
    simp only [List.append_nil, List.map_cons, List.map_map, Function.comp_def, firstIs.flush,
      String.ofList_toList, List.map_congr_left dropped, List.map_id']
    rfl

/-- Semicolons between quotes and backticks do not split. -/
example : splitScript "MATCH (n:\x60;\x60);\n\nRETURN '\\';';\n" =
    (["MATCH (n:\x60;\x60);", "RETURN '\\';';"], "") := by
  decide

/-- There is no blank in front of a text whose first part starts with another character. -/
theorem flush_append {front : String} (visible : front.toList.head?.any (!isBlank ·) = true)
    (rest : String) :
    (front ++ rest).toList.dropWhile isBlank = (front ++ rest).toList := by
  rw [String.toList_append]
  -- Blanks are dropped up to the first character that is none, and that is the first one.
  cases opening : front.toList with
  | nil => simp [opening] at visible
  | cons c others =>
    rw [opening] at visible
    exact List.dropWhile_cons_of_neg (by simpa using visible)

/-- Constraints are statements. -/
theorem isStatement_constraint (c : Constraint) : IsStatement c.text where
  once := by
    have named : Inert ("CREATE CONSTRAINT " ++ c.name) :=
      .append (by decide) (inert_word (isWord_constraintName c))
    have placed : Inert ("CREATE CONSTRAINT " ++ c.name ++ " IF NOT EXISTS FOR "
        ++ elementPattern c.element) :=
      (named.append (by decide)).append (inert_elementPattern c.element)
    unfold Constraint.text
    -- The semicolon at the end is left out, and all in front of it is inert.
    refine ⟨_, ?_, rfl⟩
    exact (placed.append (by decide)).append (inert_demand c)
  flush := by
    unfold Constraint.text
    simp only [String.append_assoc]
    refine flush_append ?_ _
    decide

/-- What stands in front of the size of a batch is inert, if the lines of the work are. -/
theorem inert_bulkOpening {body : List String} (lines : ∀ line ∈ body, Inert line) (file : String)
    (method : Submission) : Inert (bulkOpening body file method) := by
  -- The file stands in the first line, fixed words in the next two, and the work behind them.
  have mark : Inert (submissionMark method ++ "LOAD CSV WITH HEADERS FROM ") := by
    cases method <;> decide
  have source : Inert (submissionMark method ++ "LOAD CSV WITH HEADERS FROM " ++ fileLiteral file
      ++ " AS row") := (mark.append (inert_file file)).append (by decide)
  have indented : ∀ line ∈ body.map ("    " ++ ·), Inert line :=
    List.forall_mem_map.mpr fun line member => .append (by decide) (lines line member)
  refine .intercalate (by decide) (List.forall_mem_append.mpr ⟨?_, indented⟩)
  exact List.forall_mem_cons.mpr ⟨source, by decide⟩

/-- Work on the rows of a file is a statement, if the lines of the work are inert. -/
theorem isStatement_bulk {body : List String} (lines : ∀ line ∈ body, Inert line) (file : String)
    (method : Submission) (batchSize : UInt32) :
    IsStatement ("\n".intercalate (bulkLines body file method batchSize)) where
  once := by
    -- The semicolon at the end is the only one outside of quotes.
    have ended : " ROWS;" = " ROWS" ++ ";" := rfl
    rw [intercalate_bulkLines, ended, ← String.append_assoc]
    refine ⟨_, ?_, rfl⟩
    have brace : Inert "\n\x7d IN TRANSACTIONS OF " := by decide
    have opening := (inert_bulkOpening lines file method).append brace
    exact (opening.append (inert_toString _)).append (by decide)
  flush := by
    -- The text opens with a colon or a word, and not with a blank.
    have visible : (submissionMark method ++ "LOAD CSV WITH HEADERS FROM ").toList.head?.any
        (!isBlank ·) = true := by
      cases method <;> decide
    unfold bulkLines
    rw [List.cons_append, List.cons_append, String.intercalate_cons_of_ne_nil (by simp),
      String.append_assoc, String.append_assoc, String.append_assoc]
    exact flush_append visible _

end GraphLoad.Cypher
