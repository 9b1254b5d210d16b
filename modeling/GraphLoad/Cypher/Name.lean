/-! Names in statements: written bare where the grammar allows it, else between backticks. -/

namespace GraphLoad.Cypher

/-- Whether a character may stand in a bare name. -/
def isNameChar (c : Char) : Bool :=
  ('a' ≤ c && c ≤ 'z') || ('A' ≤ c && c ≤ 'Z') || ('0' ≤ c && c ≤ '9') || c == '_'

/-- Whether a column name is written bare. -/
def isBareColumn (name : List Char) : Bool :=
  !name.isEmpty && name.all isNameChar

/-- Whether a label, type or property key is written bare: like a column, without a leading digit.
-/
def isBareIdentifier (name : List Char) : Bool :=
  isBareColumn name && !(name.head?.any Char.isDigit)

/-- Writes every backtick twice. -/
def doubleBackticks (name : List Char) : List Char :=
  name.flatMap fun c => if c = '\x60' then ['\x60', '\x60'] else [c]

/-- A name between backticks. -/
def backticked (name : List Char) : List Char :=
  '\x60' :: (doubleBackticks name ++ ['\x60'])

/-- A column name as it is written in a statement. -/
def quoteColumn (name : String) : String :=
  if isBareColumn name.toList then name else String.ofList (backticked name.toList)

/-- A label, relationship type or property key as it is written in a statement. -/
def quoteIdentifier (name : String) : String :=
  if isBareIdentifier name.toList then name else String.ofList (backticked name.toList)

/-- Reads the rest of a name after its opening backtick, and what follows the closing one. -/
def lexBackticked : List Char → Option (List Char × List Char)
  | [] => none
  | '\x60' :: '\x60' :: rest =>
    (lexBackticked rest).map fun (name, after) => ('\x60' :: name, after)
  | c :: rest =>
    if c = '\x60' then some ([], rest)
    else (lexBackticked rest).map fun (name, after) => (c :: name, after)

/-- Reads a name at the start of a text, and the text after it. -/
def lexName : List Char → Option (List Char × List Char)
  | '\x60' :: rest => lexBackticked rest
  | text => some (text.takeWhile isNameChar, text.dropWhile isNameChar)

end GraphLoad.Cypher
