import GraphLoad.Cypher.Clause

/-! Whole statements: the work on a row, wrapped for one of two ways to feed it with rows. -/

namespace GraphLoad.Cypher

/-- A statement whose rows arrive as a parameter. -/
def unwindText (body : List String) : String :=
  "\n".intercalate ("WITH $dict.rows AS rows" :: "UNWIND rows AS row" :: body)

/-- A text inside single quotes, its quotes and backslashes marked by backslashes. -/
def escapeLiteral (text : List Char) : List Char :=
  text.flatMap fun c => if c = '\\' ∨ c = '\'' then ['\\', c] else [c]

/-- The literal that names a file of a bulk load. -/
def fileLiteral (file : String) : String :=
  "'file:///" ++ String.ofList (escapeLiteral file.toList) ++ "'"

/-- Reads the rest of a literal after its opening quote, and what follows the closing one. -/
def readLiteral : List Char → Option (List Char × List Char)
  | [] => none
  | '\\' :: c :: rest => (readLiteral rest).map fun (text, after) => (c :: text, after)
  | c :: rest =>
    if c = '\'' then some ([], rest)
    else (readLiteral rest).map fun (text, after) => (c :: text, after)

/-- What a statement opens with that the browser console submits. -/
def submissionMark : Submission → String
  | .browser => ":auto "
  | .api => ""

/-- The lines of a statement whose rows are read from a file. -/
def bulkLines (body : List String) (file : String) (method : Submission) (batchSize : UInt32) :
    List String :=
  [submissionMark method ++ "LOAD CSV WITH HEADERS FROM " ++ fileLiteral file ++ " AS row",
      "CALL \x7b", "    WITH row"]
    ++ body.map ("    " ++ ·)
    ++ ["\x7d IN TRANSACTIONS OF " ++ toString batchSize.toNat ++ " ROWS;"]

/-- A statement whose rows are read from a file, a batch to a transaction. -/
def bulkText (body : List String) (file : String) (method : Submission) (batchSize : UInt32) :
    Except CompileError String :=
  if batchSize = 0 then .error .emptyBatch
  else .ok ("\n".intercalate (bulkLines body file method batchSize))

/-- The statement that loads a kind of node from rows that arrive as a parameter. -/
def nodeUnwindText (n : Node) (strict : Bool) : Except CompileError String := do
  return unwindText ((← nodeBody n strict).map Clause.text)

/-- The statement that loads a kind of node from a file. -/
def nodeBulkText (n : Node) (file : String) (method : Submission) (batchSize : UInt32)
    (strict : Bool) : Except CompileError String := do
  bulkText ((← nodeBody n strict).map Clause.text) file method batchSize

/-- The statement that loads a kind of relationship from rows that arrive as a parameter; what
declares no file is read from the implicit one. -/
def relationshipUnwindText (r : Relationship) (source target : Node) (strict : Bool) :
    Except CompileError String := do
  return unwindText ((← relationshipBody r source target implicitSource strict).map Clause.text)

/-- The statement that loads a kind of relationship from a file; how its nodes are found is planned
as if what declares no file were read from the implicit one. -/
def relationshipBulkText (r : Relationship) (source target : Node) (file : String)
    (method : Submission) (batchSize : UInt32) (strict : Bool) : Except CompileError String := do
  bulkText ((← relationshipBody r source target implicitSource strict).map Clause.text) file method
    batchSize

end GraphLoad.Cypher
