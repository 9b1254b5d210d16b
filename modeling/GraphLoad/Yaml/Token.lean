/-! The tokens of YAML, in which the nesting that indentation gives is spelt out. -/

namespace GraphLoad.Yaml

/-- How a scalar is written, as far as its meaning depends on it. -/
inductive Form where
  /-- Without quotes. -/
  | plain
  /-- As lines that are kept. -/
  | literal
  /-- Between quotes, or as lines that are joined. -/
  | quoted
deriving DecidableEq, Repr

/-- A token of YAML. -/
inductive Token where
  /-- The version a document is written for. -/
  | version (major minor : Nat)
  /-- What a handle stands for in the tags of a document. -/
  | handle (name : List Char) (start : List UInt8)
  /-- The mark at the start of a document. -/
  | documentStart
  /-- The mark at the end of a document. -/
  | documentEnd
  /-- The start of an indented list. -/
  | listStart
  /-- The start of an indented mapping. -/
  | mapStart
  /-- The end of an indented list or mapping. -/
  | blockEnd
  /-- An opening bracket. -/
  | listOpen
  /-- A closing bracket. -/
  | listClose
  /-- An opening brace. -/
  | mapOpen
  /-- A closing brace. -/
  | mapClose
  /-- A comma. -/
  | comma
  /-- The dash of an item. -/
  | entry
  /-- The mark of a key, which may be written out or not. -/
  | key
  /-- The colon before a value. -/
  | value
  /-- The node with an anchor once more. -/
  | reference (name : List Char)
  /-- The anchor of the next node. -/
  | anchor (name : List Char)
  /-- The tag of the next node: a handle and what follows it. -/
  | tag (handle : List Char) (suffix : List UInt8)
  /-- A scalar. -/
  | scalar (form : Form) (text : List Char)
deriving DecidableEq, Repr

end GraphLoad.Yaml
