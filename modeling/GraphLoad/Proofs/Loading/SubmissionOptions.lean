import GraphLoad.Proofs.Cypher.BulkStatement
import GraphLoad.Proofs.Loading.Strategies

/-! How a load is submitted never reaches the work on a row: statements that differ in nothing else
are equal but for a mark in front, a directory and a number. -/

namespace GraphLoad

open Cypher

namespace Cypher

/-- A text without the mark it may open with. -/
def unmarked (text : List Char) : List Char :=
  (":auto ".toList.isPrefixOf? text).getD text

/-- A text without the digits it may end with. -/
def unnumbered (text : List Char) : List Char :=
  (text.reverse.dropWhile Char.isDigit).reverse

/-- What the text of a statement over a file says of the file and of the work: the address that its
first line reads from, and all that stands between this address and the number in the last line. -/
def takeApart? (text : List Char) : Option (List Char × List Char) := do
  let literal ← "LOAD CSV WITH HEADERS FROM '".toList.isPrefixOf? (unmarked text)
  let read ← readLiteral literal
  let numbered ← " ROWS;".toList.isSuffixOf? read.2
  -- The number has to be the one that the last line speaks of.
  if "\n\x7d IN TRANSACTIONS OF ".toList.isSuffixOf (unnumbered numbered)
    then some (read.1, unnumbered numbered)
    else none

end Cypher

/-- The statement with other options of submission written over its own in three places: the mark in
front, the directory of the file, and the number of rows. There is none if the text lacks these. -/
def Statement.resubmitted? (s : Statement) (o : LoadOptions) : Option Statement := do
  let parts ← takeApart? s.cypher.toList
  let path ← "file:///".toList.isPrefixOf? parts.1
  -- Whatever stands in front of the file's name is its directory.
  let _ ← s.sourceName.toList.isSuffixOf? path
  return { s with
    cypher := submissionMark o.method ++ "LOAD CSV WITH HEADERS FROM "
      ++ fileLiteral (o.fileDirectory ++ s.sourceName) ++ String.ofList parts.2
      ++ toString o.batchSize.toNat ++ " ROWS;" }

namespace Cypher

/-- What stands between the file and the number of rows in the text of a statement: nothing but the
work on a row and fixed words. -/
def workText (body : List Clause) : List Char :=
  " AS row\nCALL \x7b\n    WITH row".toList
    ++ (body.flatMap (fun c => "\n    ".toList ++ c.text.toList)
      ++ ("\n\x7d".toList ++ " IN TRANSACTIONS OF ".toList))

/-- The text of a statement over a file, with the options of its submission in their places. -/
theorem toList_bulkStatement (o : LoadOptions) (l : Load) :
    (l.bulkStatement o).cypher.toList =
      (submissionMark o.method).toList ++ ("LOAD CSV WITH HEADERS FROM ".toList ++
        ((fileLiteral (o.fileDirectory ++ l.sourceName)).toList ++
          (workText l.body ++ ((toString o.batchSize.toNat).toList ++ " ROWS;".toList)))) := by
  rw [Load.bulkStatement_cypher, Load.lines, toList_bulkLines]
  unfold workText
  simp only [List.append_assoc]

/-- A mark of submission is passed over. -/
theorem unmarked_submissionMark (method : Submission) (rest : List Char) :
    unmarked ((submissionMark method).toList ++ ("LOAD CSV WITH HEADERS FROM ".toList ++ rest)) =
      "LOAD CSV WITH HEADERS FROM ".toList ++ rest := by
  cases method with
  | browser =>
    rw [unmarked, submissionMark, List.isPrefixOf?_eq_some_iff_append_eq.mpr rfl, Option.getD_some]
  | api =>
    -- Without a mark the text starts with another character.
    simp [unmarked, submissionMark, List.isPrefixOf?]

/-- A number is dropped from the end of a text, and nothing else if no digit stands in front. -/
theorem unnumbered_append_toString {front : List Char} {mark : Char}
    (last : front.getLast? = some mark) (stops : mark.isDigit = false) (n : Nat) :
    unnumbered (front ++ (toString n).toList) = front := by
  have digits : ∀ c ∈ (toString n).toList.reverse, c.isDigit = true := fun c member =>
    isDigit_of_mem_toString (List.mem_reverse.mp member)
  obtain ⟨front, rfl⟩ := List.getLast?_eq_some_iff.mp last
  -- Behind all digits of the number, the mark is met first.
  rw [unnumbered, List.reverse_append, List.dropWhile_append_of_pos digits, List.reverse_append,
    List.reverse_singleton, List.singleton_append, List.dropWhile_cons_of_neg (by simp [stops])]
  simp

/-- The work on a row ends before the number of rows in a transaction. -/
theorem workText_suffix (body : List Clause) :
    "\n\x7d IN TRANSACTIONS OF ".toList <:+ workText body := by
  -- The work is closed by a bracket, and the words about transactions stand behind it.
  have closing : "\n\x7d IN TRANSACTIONS OF ".toList =
      "\n\x7d".toList ++ " IN TRANSACTIONS OF ".toList := by simp
  unfold workText
  rw [closing, ← List.append_assoc]
  exact List.suffix_append _ _

/-- The parts that a statement over a file is taken apart into. -/
theorem takeApart?_bulkStatement (o : LoadOptions) (l : Load) :
    takeApart? (l.bulkStatement o).cypher.toList =
      some ("file:///".toList ++ (o.fileDirectory ++ l.sourceName).toList, workText l.body) := by
  have opens : ∀ rest, "LOAD CSV WITH HEADERS FROM '".toList.isPrefixOf?
      ("LOAD CSV WITH HEADERS FROM ".toList ++ '\'' :: rest) = some rest := by
    intro rest
    rw [List.isPrefixOf?_eq_some_iff_append_eq]
    -- The opening quote of the literal ends the opening of the text.
    simp
  have closes : ∀ front, " ROWS;".toList.isSuffixOf? (front ++ " ROWS;".toList) = some front :=
    fun front => List.isSuffixOf?_eq_some_iff_append_eq.mpr rfl
  obtain ⟨front, ends⟩ := workText_suffix l.body
  have closed : "\n\x7d IN TRANSACTIONS OF ".toList.isSuffixOf (workText l.body) = true :=
    List.isSuffixOf_iff_suffix.mpr ⟨front, ends⟩
  -- A blank stands in front of the number.
  have number : unnumbered (workText l.body ++ (toString o.batchSize.toNat).toList) =
      workText l.body := by
    have last : (workText l.body).getLast? = some ' ' := by
      rw [← ends]
      simp
    exact unnumbered_append_toString last (by decide) _
  -- Mark, opening and address are read from the front, the number from behind.
  rw [takeApart?, toList_bulkStatement, unmarked_submissionMark, toList_fileLiteral,
    List.cons_append, opens, Option.bind_eq_bind, Option.bind_some, List.append_assoc,
    List.singleton_append, readLiteral_escape, Option.bind_eq_bind, Option.bind_some,
    ← List.append_assoc, closes, Option.bind_some, number, if_pos closed]

end Cypher

/-- A statement resubmitted is the one that would have been written for the other submission. -/
theorem Load.resubmitted?_bulkStatement (l : Load) (o p : LoadOptions) :
    (l.bulkStatement o).resubmitted? p = some (l.bulkStatement p) := by
  have name : (l.bulkStatement o).sourceName = l.sourceName := rfl
  -- The directory is what stands between the opening of the address and the name of the file.
  have path : "file:///".toList.isPrefixOf?
      ("file:///".toList ++ (o.fileDirectory ++ l.sourceName).toList) =
        some (o.fileDirectory ++ l.sourceName).toList :=
    List.isPrefixOf?_eq_some_iff_append_eq.mpr rfl
  have directory : l.sourceName.toList.isSuffixOf? (o.fileDirectory ++ l.sourceName).toList =
      some o.fileDirectory.toList :=
    List.isSuffixOf?_eq_some_iff_append_eq.mpr String.toList_append.symm
  have text : submissionMark p.method ++ "LOAD CSV WITH HEADERS FROM "
      ++ fileLiteral (p.fileDirectory ++ l.sourceName) ++ String.ofList (workText l.body)
      ++ toString p.batchSize.toNat ++ " ROWS;" = (l.bulkStatement p).cypher := by
    rw [← String.toList_inj, toList_bulkStatement]
    simp only [String.toList_append, String.toList_ofList, List.append_assoc]
  rw [Statement.resubmitted?, takeApart?_bulkStatement, Option.bind_eq_bind, Option.bind_some, path,
    Option.bind_eq_bind, Option.bind_some, name, directory, Option.bind_some]
  -- Element and file stay, and the text is the one for the other options.
  exact congrArg (fun cypher => some (⟨l.element, l.sourceName, cypher⟩ : Statement)) text

/-- Statements over files that differ in their submission at most. -/
structure SameButSubmission (o : LoadOptions) (s t : Statement) : Prop where
  /-- They load the same element. -/
  element : s.element = t.element
  /-- They read the same file, though it may be sought in another directory. -/
  sourceName : s.sourceName = t.sourceName
  /-- With these options written over those of the first, it is the second. -/
  becomes : s.resubmitted? o = some t
  /-- With any options written over those of both, they are one statement. -/
  common : ∀ p, ∃ u, s.resubmitted? p = some u ∧ t.resubmitted? p = some u

namespace Compiler

/-- Loads of one model, checked against the same files, that may differ in how they are submitted:
in the method, the size of a batch and the directory. -/
structure DiffersInSubmission (first second : Compiler) : Prop where
  /-- Both load one model. -/
  model : first.model = second.model
  /-- Both know the same of its files. -/
  files : first.files = second.files
  /-- Both convert values, or neither does. -/
  strictTyping : first.options.strictTyping = second.options.strictTyping
  /-- Both read what declares no file from the same one. -/
  sourceName : first.options.sourceName = second.options.sourceName

namespace DiffersInSubmission

variable {first second : Compiler}

/-- The same faults are found. -/
theorem faults (alike : first.DiffersInSubmission second) : first.faults = second.faults := by
  unfold Compiler.faults
  rw [alike.model, alike.files, alike.sourceName]

/-- Both models pass, or both are refused. -/
theorem check (alike : first.DiffersInSubmission second) : first.check = second.check := by
  unfold Compiler.check
  rw [alike.faults]

/-- The same constraints are written. -/
theorem constraints (alike : first.DiffersInSubmission second) :
    first.constraints = second.constraints := by
  unfold Compiler.constraints
  rw [alike.check, alike.model]

/-- The same work is done on a node. -/
theorem nodeLoad (alike : first.DiffersInSubmission second) :
    first.nodeLoad = second.nodeLoad := by
  funext n
  unfold Compiler.nodeLoad Compiler.nodeSource
  rw [alike.strictTyping, alike.sourceName]

/-- The same work is done on a relationship. -/
theorem relationshipLoad (alike : first.DiffersInSubmission second) :
    first.relationshipLoad = second.relationshipLoad := by
  funext r
  unfold Compiler.relationshipLoad Compiler.relationshipSource
  rw [alike.model, alike.strictTyping, alike.sourceName]

/-- The same work is done for the model. -/
theorem loads (alike : first.DiffersInSubmission second) : first.loads = second.loads := by
  unfold Compiler.loads
  rw [alike.check, alike.model, alike.nodeLoad, alike.relationshipLoad]

end DiffersInSubmission

/-- The options of submission are seen in three places of a statement over a file: the mark, the
directory and the number of rows. Faults, constraints and all other statements do not depend on
them. -/
theorem submission_outside_work {first second : Compiler}
    (alike : first.DiffersInSubmission second) :
    first.faults = second.faults ∧
      first.constraints = second.constraints ∧
      first.unwindStatements = second.unwindStatements ∧
      EndAlike (List.Forall₂ (SameButSubmission second.options)) first.bulkStatements
        second.bulkStatements := by
  refine ⟨alike.faults, alike.constraints, ?_, ?_⟩
  · rw [unwindStatements_eq, unwindStatements_eq, alike.loads]
  · rw [bulkStatements_eq, bulkStatements_eq, alike.loads]
    cases second.loads with
    | error reason => exact .error reason
    | ok loads =>
      -- Statements at one place are written from the load at that place.
      refine .ok ?_
      rw [List.forall₂_map_left_iff, List.forall₂_map_right_iff, List.forall₂_same]
      intro l _
      exact ⟨rfl, rfl, l.resubmitted?_bulkStatement .., fun p =>
        ⟨l.bulkStatement p, l.resubmitted?_bulkStatement .., l.resubmitted?_bulkStatement ..⟩⟩

/-- Herds and their meadows, submitted over the network. -/
def pasture : Compiler where
  model := {
    nodes := [
      { label := "Herd", sourceName := some "herds.csv",
        properties := [{ name := "brand", column := "brand", isUnique := true }] },
      { label := "Meadow", sourceName := some "herds.csv",
        properties := [{ name := "plot", column := "plot", isUnique := true }] }]
    relationships := [{ type := "GRAZES", source := "Herd", target := "Meadow" }] }
  options := { fileDirectory := "north/", batchSize := 70 }
  valid := by decide

/-- The same, submitted in the browser, from a directory whose name closes a literal. -/
def pastureInBrowser : Compiler where
  model := pasture.model
  options := { method := .browser, fileDirectory := "' AS row //", batchSize := 5 }
  valid := by decide

/-- Not even a quote in a directory is seen in the work on herds and meadows. -/
theorem submission_outside_work_pasture :
    pastureInBrowser.DiffersInSubmission pasture ∧
      pastureInBrowser.faults = pasture.faults ∧
      pastureInBrowser.constraints = pasture.constraints ∧
      pastureInBrowser.unwindStatements = pasture.unwindStatements ∧
      EndAlike (List.Forall₂ (SameButSubmission pasture.options))
        pastureInBrowser.bulkStatements pasture.bulkStatements :=
  have alike : pastureInBrowser.DiffersInSubmission pasture := ⟨rfl, rfl, rfl, rfl⟩
  ⟨alike, submission_outside_work alike⟩

end Compiler

end GraphLoad
