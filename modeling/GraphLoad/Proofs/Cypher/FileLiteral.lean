import GraphLoad.Proofs.Cypher.BulkStatement

/-! The literal that a bulk load names its file by: whatever stands in the name, the literal reads
back as the address of the file, and the statement goes on behind it as for any other file. -/

namespace GraphLoad.Cypher

/-- Puts a backslash in front of every occurrence of a character. -/
def markEach (mark : Char) (text : List Char) : List Char :=
  text.flatMap fun c => if c = mark then ['\\', c] else [c]

/-- Marking quotes and backslashes in one pass is marking the backslashes first and then the quotes.
In the other order, the backslash that marks a quote would be marked in turn. -/
theorem escapeLiteral_eq_markEach (text : List Char) :
    escapeLiteral text = markEach '\'' (markEach '\\' text) := by
  unfold escapeLiteral markEach
  rw [List.flatMap_assoc]
  refine List.flatMap_congr fun c _ => ?_
  -- A backslash is no quote, so the second pass leaves the marks of the first alone.
  by_cases slash : c = '\\'
  · subst slash
    decide
  · simp [slash]

example : escapeLiteral "'".toList ≠ markEach '\\' (markEach '\'' "'".toList) := by decide

/-- Reading the literal of a file from its opening quote gives the address of the file, and leaves
the text behind the closing quote. -/
theorem readLiteral_address (file : String) (rest : List Char) :
    ∃ literal, (fileLiteral file).toList ++ rest = '\'' :: literal ∧
      readLiteral literal = some ("file:///".toList ++ file.toList, rest) := by
  refine ⟨escapeLiteral ("file:///".toList ++ file.toList) ++ '\'' :: rest, ?_,
    readLiteral_escape _ rest⟩
  rw [toList_fileLiteral, List.cons_append, List.append_assoc, List.singleton_append]

/-- A bulk load reads the file it was written for: the literal in its first line reads back as the
address of the file. What stands behind the literal depends on neither the file nor the way of
submission. -/
theorem bulk_file_reads_back (body : List String) (batchSize : UInt32) (positive : 1 ≤ batchSize) :
    ∃ others, ∀ (file : String) (method : Submission), ∃ text literal,
      bulkText body file method batchSize = .ok text ∧
        text.toList = (submissionMark method).toList ++
          ("LOAD CSV WITH HEADERS FROM ".toList ++ '\'' :: literal) ∧
        readLiteral literal =
          some ("file:///".toList ++ file.toList, " AS row\nCALL \x7b".toList ++ others) := by
  have present : batchSize ≠ 0 := by
    rintro rfl
    exact absurd positive (by decide)
  -- What is left is the rest of the fixed opening, the lines of the body, and the closing line.
  refine ⟨"\n    WITH row".toList ++
    (body.flatMap (fun line => "\n    ".toList ++ line.toList) ++
      ("\n\x7d".toList ++ (" IN TRANSACTIONS OF ".toList ++
        ((toString batchSize.toNat).toList ++ " ROWS;".toList)))), ?_⟩
  intro file method
  obtain ⟨literal, opens, reads⟩ := readLiteral_address file _
  refine ⟨"\n".intercalate (bulkLines body file method batchSize), literal, if_neg present, ?_,
    reads⟩
  -- The literal is the first thing in the text that depends on the file.
  rw [toList_intercalate_bulkLines, ← opens]
  simp

/-- A file whose name holds a quote between backslashes, and ends with a backslash, is read from
where it is. -/
theorem bulk_file_reads_back_slashes :
    (1 : UInt32) ≤ 25 ∧ ∃ text literal others,
      bulkText ["MERGE (n:Tag)"] "it\\'\\s\\" .browser 25 = .ok text ∧
        text.toList = ":auto LOAD CSV WITH HEADERS FROM ".toList ++ '\'' :: literal ∧
        readLiteral literal =
          some ("file:///it\\'\\s\\".toList, " AS row\nCALL \x7b".toList ++ others) := by
  obtain ⟨others, reads⟩ := bulk_file_reads_back ["MERGE (n:Tag)"] 25 (by decide)
  obtain ⟨text, literal, written, opens, read⟩ := reads "it\\'\\s\\" .browser
  exact ⟨by decide, text, literal, others, written, opens, read⟩

end GraphLoad.Cypher
