import GraphLoad.Text.Count
import GraphLoad.Yaml.Folding
import GraphLoad.Yaml.Place

/-! Scalars between quotes. Both kinds are folded and go on to the closing quote, wherever it is,
unless a line starts with a mark that separates documents. -/

namespace GraphLoad.Yaml

/-- Reads a scalar between single quotes, where two quotes stand for one. -/
def singleQuoted? (f : Folded) (p : Place) : List Char → Option (List Char × Cursor)
  | [] => none
  | '\'' :: '\'' :: rest => singleQuoted? (f.keep '\'') (p.right 2) rest
  | c :: rest =>
    if p.column = 0 ∧ separatesDocuments (c :: rest) then none
    else if c = '\'' then some (f.closed, ⟨rest, p.right 1⟩)
    else singleQuoted? (f.push c) (p.after c) rest

/-- The character that a backslash and another character stand for. -/
def escaped? : Char → Option Char
  | '0' => some '\x00'
  | 'a' => some '\x07'
  | 'b' => some '\x08'
  | 't' | '\t' => some '\t'
  | 'n' => some '\n'
  | 'v' => some '\x0b'
  | 'f' => some '\x0c'
  | 'r' => some '\r'
  | 'e' => some '\x1b'
  | ' ' => some ' '
  | '"' => some '"'
  | '/' => some '/'
  | '\\' => some '\\'
  | 'N' => some '\u0085'
  | '_' => some '\u00a0'
  | 'L' => some '\u2028'
  | 'P' => some '\u2029'
  | _ => none

/-- The character that hexadecimal digits name. -/
def character? (digits : List Char) : Option Char := do
  let code ← numeral? 16 digits
  if h : code.isValidChar then some (Char.ofNatAux code h) else none

/-- Reads a scalar between double quotes, where a backslash starts an escape. -/
def doubleQuoted? (f : Folded) (p : Place) : List Char → Option (List Char × Cursor)
  | [] => none
  | '\\' :: 'x' :: a :: b :: rest => do
    doubleQuoted? (f.keep (← character? [a, b])) (p.right 4) rest
  | '\\' :: 'u' :: a :: b :: c :: d :: rest => do
    doubleQuoted? (f.keep (← character? [a, b, c, d])) (p.right 6) rest
  | '\\' :: 'U' :: a :: b :: c :: d :: e :: g :: h :: i :: rest => do
    doubleQuoted? (f.keep (← character? [a, b, c, d, e, g, h, i])) (p.right 10) rest
  | '\\' :: c :: rest =>
    if isBreak c then doubleQuoted? f.join ((p.right 1).after c) rest
    else do doubleQuoted? (f.keep (← escaped? c)) (p.right 2) rest
  | c :: rest =>
    if p.column = 0 ∧ separatesDocuments (c :: rest) then none
    else if c = '"' then some (f.closed, ⟨rest, p.right 1⟩)
    else if c = '\\' then none
    else doubleQuoted? (f.push c) (p.after c) rest

end GraphLoad.Yaml
