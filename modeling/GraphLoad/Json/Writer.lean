import GraphLoad.Document.Value

/-! Writing JSON: a field or item to each line, two spaces deeper than what it belongs to. -/

namespace GraphLoad.Json

/-- A hexadecimal digit of a number below sixteen. -/
def hexDigit (n : Nat) : Char :=
  if n < 10 then Char.ofNat ('0'.toNat + n) else Char.ofNat ('a'.toNat + (n - 10))

/-- A character as it stands within a string. -/
def escape (c : Char) : List Char :=
  if c = '"' then ['\\', '"']
  else if c = '\\' then ['\\', '\\']
  else if c = '\x08' then ['\\', 'b']
  else if c = '\x0c' then ['\\', 'f']
  else if c = '\n' then ['\\', 'n']
  else if c = '\r' then ['\\', 'r']
  else if c = '\t' then ['\\', 't']
  else if c.toNat < 0x20 then
    ['\\', 'u', '0', '0', hexDigit (c.toNat / 16), hexDigit (c.toNat % 16)]
  else [c]

/-- A text between quotes. -/
def quote (text : String) : List Char :=
  '"' :: (text.toList.flatMap escape ++ ['"'])

/-- A line break and the indentation after it. -/
def newline (depth : Nat) : List Char :=
  '\n' :: List.replicate (2 * depth) ' '

/-- Parts that are each on a line of their own, between brackets; brackets without parts touch. -/
def block (depth : Nat) (opening closing : Char) : List (List Char) → List Char
  | [] => [opening, closing]
  | parts =>
    opening :: ([','].intercalate (parts.map (newline (depth + 1) ++ ·)) ++ newline depth
      ++ [closing])

mutual

/-- The text of a value that stands at a depth. -/
def write (depth : Nat) : Value → List Char
  | .null | .unreadable => "null".toList
  | .flag b => (toString b).toList
  | .number literal => literal.toList
  | .text content => quote content
  | .list items => block depth '[' ']' (writeItems (depth + 1) items)
  | .record fields => block depth '\x7b' '\x7d' (writeFields (depth + 1) fields)

/-- The texts of the items of a list. -/
def writeItems (depth : Nat) : List Value → List (List Char)
  | [] => []
  | v :: rest => write depth v :: writeItems depth rest

/-- The texts of the fields of a record. -/
def writeFields (depth : Nat) : List (String × Value) → List (List Char)
  | [] => []
  | (name, v) :: rest => (quote name ++ ':' :: ' ' :: write depth v) :: writeFields depth rest

end

/-- The text of a document. -/
def render (v : Value) : String :=
  String.ofList (write 0 v)

end GraphLoad.Json
