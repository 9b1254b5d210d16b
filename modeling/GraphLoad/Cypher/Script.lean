import GraphLoad.Text.Blank

/-! Scripts of statements, and how a reader that knows quotes takes them apart at semicolons and
drops comments. -/

namespace GraphLoad.Cypher

/-- Where in a script a reader is. -/
inductive ScanMode where
  /-- Outside of names between backticks and of literals between single quotes. -/
  | plain
  /-- In a name between backticks. -/
  | name
  /-- In a literal between single quotes. -/
  | literal
  /-- In a literal, right behind a backslash, which makes the next character stand for itself. -/
  | escaped
deriving DecidableEq, Repr

/-- Where the reader is behind the next character. -/
def ScanMode.next : ScanMode → Char → ScanMode
  | plain, c => if c = '\x60' then name else if c = '\'' then literal else plain
  | name, c => if c = '\x60' then plain else name
  | literal, c => if c = '\\' then escaped else if c = '\'' then plain else literal
  | escaped, _ => literal

/-- Puts a text in front of the first piece or, where there is none, of what is left. -/
def putFront (text : List Char) : List (List Char) × List Char → List (List Char) × List Char
  | ([], left) => ([], text ++ left)
  | (piece :: pieces, left) => ((text ++ piece) :: pieces, left)

/-- The pieces of a text that end with a semicolon in plain mode, and what is left behind them. -/
def cutStatements (mode : ScanMode) : List Char → List (List Char) × List Char
  | [] => ([], [])
  | c :: rest =>
    if mode = .plain ∧ c = ';' then
      let (pieces, left) := cutStatements .plain rest
      ([c] :: pieces, left)
    else putFront [c] (cutStatements (mode.next c) rest)

/-- The statements of a script and what is left behind them, both without the blanks in front. -/
def splitScript (text : String) : List String × String :=
  let (pieces, left) := cutStatements .plain text.toList
  (pieces.map fun piece => String.ofList (piece.dropWhile isBlank),
    String.ofList (left.dropWhile isBlank))

/-- A text without its comments, read from a mode on, or from within a comment where there is none.

Outside of quotes, two slashes start a comment. It takes up the rest of its line and the line break.
-/
def dropComments : Option ScanMode → List Char → List Char
  | _, [] => []
  | none, c :: rest => dropComments (if c = '\n' then some .plain else none) rest
  | some mode, c :: rest =>
    if mode = .plain ∧ ['/', '/'].isPrefixOf (c :: rest) then dropComments none rest
    else c :: dropComments (some (mode.next c)) rest

/-- The text without its comments. -/
def withoutComments (text : String) : String :=
  String.ofList (dropComments (some .plain) text.toList)

end GraphLoad.Cypher
