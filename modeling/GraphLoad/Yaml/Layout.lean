import GraphLoad.Yaml.Block
import GraphLoad.Yaml.Label
import GraphLoad.Yaml.Plain
import GraphLoad.Yaml.Quoted

/-! The split of a text into tokens. Indentation becomes tokens of its own, and a token that turns
out to be a key when a colon follows it gets the mark of a key in front. -/

namespace GraphLoad.Yaml

/-- A token that becomes a key if a colon follows it in its line. -/
structure KeyCandidate where
  /-- The number of tokens before it. -/
  index : Nat
  /-- Where it starts. -/
  place : Place
  /-- Nothing but a key may stand here. -/
  required : Bool
deriving DecidableEq, Repr

namespace KeyCandidate

/-- The most bytes there may be between the start of a key and its colon. -/
def reach : Nat := 1024

/-- Whether a colon at a place is too far away from the candidate. -/
def isStale (k : KeyCandidate) (p : Place) : Bool :=
  k.place.line < p.line || k.place.offset + reach < p.offset

end KeyCandidate

/-- A text of which some tokens have been found. -/
structure Layout where
  /-- What is left of the text. -/
  cursor : Cursor
  /-- The tokens found, latest first. -/
  tokens : List Token := []
  /-- The number of tokens found. -/
  count : Nat := 0
  /-- The columns of the indented lists and mappings that are open, innermost first. -/
  indents : List Nat := []
  /-- The candidate for a key between the innermost brackets, or outside brackets. -/
  candidate : Option KeyCandidate := none
  /-- The candidates outside each open bracket, innermost first. -/
  outer : List (Option KeyCandidate) := []
  /-- The next token may be a key without a mark. -/
  keyAllowed : Bool := true
deriving DecidableEq, Repr

namespace Layout

/-- Whether a bracket is open. -/
def inFlow (s : Layout) : Bool :=
  !s.outer.isEmpty

/-- Adds a token that ends where the text at the cursor starts. -/
def emit (s : Layout) (t : Token) (cursor : Cursor) : Layout :=
  { s with tokens := t :: s.tokens, count := s.count + 1, cursor }

/-- Puts a token in front of all but the first `index` tokens. -/
def insertAt (s : Layout) (index : Nat) (t : Token) : Layout :=
  let later := s.count - index
  { s with
    tokens := s.tokens.take later ++ t :: s.tokens.drop later
    count := s.count + 1 }

/-- Gives up the candidate for a key, which must not be required. -/
def dropCandidate (s : Layout) : Option Layout :=
  if s.candidate.any (·.required) then none else some { s with candidate := none }

/-- Takes the next token for a candidate, if it may be one. -/
def addCandidate (s : Layout) : Option Layout :=
  if s.keyAllowed then do
    let place := s.cursor.place
    let required := !s.inFlow && s.indents.head? == some place.column
    let candidate := some ⟨s.count, place, required⟩
    return { ← s.dropCandidate with candidate }
  else some s

/-- Gives up every candidate that is too far away by now. -/
def dropStale (s : Layout) : Option Layout :=
  let isStale (k : KeyCandidate) := k.isStale s.cursor.place
  if (s.candidate :: s.outer).any (·.any fun k => isStale k && k.required) then none
  else
    let fresh (k : Option KeyCandidate) := k.filter (!isStale ·)
    some { s with candidate := fresh s.candidate, outer := s.outer.map fresh }

/-- Opens an indented list or mapping at a column where none is open yet. Its token comes after the
first `index` tokens. -/
def openBlock (s : Layout) (column index : Nat) (t : Token) : Layout :=
  if !s.inFlow && s.indents.head?.all (· < column) then
    { s.insertAt index t with indents := column :: s.indents }
  else s

/-- Closes the indented lists and mappings that a condition on their columns holds for, up to the
first that it fails for. -/
def closeBlocks (s : Layout) (ends : Nat → Bool) : Layout :=
  if s.inFlow then s
  else
    let closed := s.indents.takeWhile ends
    { s with
      tokens := closed.map (fun _ => .blockEnd) ++ s.tokens
      count := s.count + closed.length
      indents := s.indents.drop closed.length }

/-- Passes over white space and comments. Tells also whether a key may follow, as it may in each new
line outside brackets. A mark of the byte order that starts a line takes up a column and says
nothing. -/
def skipSpace (inFlow keyAllowed inComment : Bool) (p : Place) : List Char → Bool × Cursor
  | [] => (keyAllowed, ⟨[], p⟩)
  | c :: rest =>
    if isBreak c then skipSpace inFlow (keyAllowed || !inFlow) false (p.after c) rest
    else if inComment || c == '#' then skipSpace inFlow keyAllowed true (p.after c) rest
    -- Where a key may follow, only spaces indent it.
    else if c == ' ' || (c == '\t' && (inFlow || !keyAllowed))
        || (c == byteOrderMark && p.column == 0) then
      skipSpace inFlow keyAllowed false (p.after c) rest
    else (keyAllowed, ⟨c :: rest, p⟩)

/-- Goes on to the start of the next token, and closes what ends before its column. -/
def toNext (s : Layout) : Option Layout := do
  let (keyAllowed, cursor) := skipSpace s.inFlow s.keyAllowed false s.cursor.place s.cursor.rest
  let s ← { s with keyAllowed, cursor }.dropStale
  return s.closeBlocks (cursor.place.column < ·)

/-- Takes a directive or a mark between documents, before which everything is closed. -/
def takeOuter (s : Layout) (t : Token) (cursor : Cursor) : Option Layout := do
  let s ← (s.closeBlocks fun _ => true).dropCandidate
  return { s.emit t cursor with keyAllowed := false }

/-- Takes a directive. -/
def takeDirective (s : Layout) : Option Layout := do
  let (t, rest) ← directive? (s.cursor.rest.drop 1)
  s.takeOuter t (← (s.cursor.moveTo rest).endLine?)

/-- Takes an opening bracket or brace. -/
def takeOpen (s : Layout) (t : Token) : Option Layout := do
  let s ← s.addCandidate
  return { s.emit t (s.cursor.skip 1) with
    candidate := none, outer := s.candidate :: s.outer, keyAllowed := true }

/-- Takes a closing bracket or brace. -/
def takeClose (s : Layout) (t : Token) : Option Layout := do
  let s ← s.dropCandidate
  let s := { s.emit t (s.cursor.skip 1) with keyAllowed := false }
  return match s.outer with
    | candidate :: outer => { s with candidate, outer }
    | [] => s

/-- Takes a comma. -/
def takeComma (s : Layout) : Option Layout := do
  let s ← s.dropCandidate
  return { s.emit .comma (s.cursor.skip 1) with keyAllowed := true }

/-- Opens an indented list or mapping at the next token, where a key may stand. -/
def openHere (s : Layout) (t : Token) : Option Layout :=
  if s.inFlow then some s
  else if s.keyAllowed then some (s.openBlock s.cursor.place.column s.count t)
  else none

/-- Takes the dash of an item. -/
def takeEntry (s : Layout) : Option Layout := do
  let s ← (← s.openHere .listStart).dropCandidate
  return { s.emit .entry (s.cursor.skip 1) with keyAllowed := true }

/-- Takes the written mark of a key. -/
def takeKey (s : Layout) : Option Layout := do
  let s ← (← s.openHere .mapStart).dropCandidate
  return { s.emit .key (s.cursor.skip 1) with keyAllowed := !s.inFlow }

/-- Takes a colon, which makes the candidate a key. -/
def takeValue (s : Layout) : Option Layout := do
  let after := s.cursor.skip 1
  match s.candidate with
  | some k =>
    let s := (s.insertAt k.index .key).openBlock k.place.column k.index .mapStart
    return { s.emit .value after with candidate := none, keyAllowed := false }
  | none =>
    let s ← s.openHere .mapStart
    return { s.emit .value after with keyAllowed := !s.inFlow }

/-- Takes an anchor, or the node with an anchor. -/
def takeName (s : Layout) (token : List Char → Token) : Option Layout := do
  let s ← s.addCandidate
  let name ← anchorName? (s.cursor.rest.drop 1)
  return { s.emit (token name) (s.cursor.skip (name.length + 1)) with keyAllowed := false }

/-- Takes a tag. -/
def takeTag (s : Layout) : Option Layout := do
  let s ← s.addCandidate
  let (t, rest) ← tag? s.cursor.rest
  if startsBlank rest || (s.inFlow && rest.head? == some ',') then
    return { s.emit t (s.cursor.moveTo rest) with keyAllowed := false }
  else none

/-- Takes a scalar of indented lines. -/
def takeBlock (s : Layout) (joins : Bool) : Option Layout := do
  let s ← s.dropCandidate
  let (text, cursor) ← blockScalar? joins (s.indents.head?.getD 0) (s.cursor.skip 1)
  let form := if joins then Form.quoted else .literal
  return { s.emit (.scalar form text) cursor with keyAllowed := true }

/-- Takes a scalar between quotes. -/
def takeQuoted (s : Layout)
    (read : Folded → Place → List Char → Option (List Char × Cursor)) : Option Layout := do
  let s ← s.addCandidate
  let c := s.cursor.skip 1
  let (text, cursor) ← read {} c.place c.rest
  return { s.emit (.scalar .quoted text) cursor with keyAllowed := false }

/-- Takes a plain scalar. -/
def takePlain (s : Layout) : Option Layout := do
  let s ← s.addCandidate
  let indent := (s.indents.head?.map (· + 1)).getD 0
  let (f, cursor) ← plain? s.inFlow indent {} s.cursor.place s.cursor.rest
  return { s.emit (.scalar .plain f.trimmed) cursor with keyAllowed := f.gap.hasBreak }

/-- Takes the token that starts with the next character. -/
def takeToken (s : Layout) : Option Layout :=
  let column := s.cursor.place.column
  match s.cursor.rest with
  | [] => none
  | c :: rest =>
    let marks := s.inFlow || startsBlank rest
    if column == 0 && c == '%' then s.takeDirective
    else if column == 0 && separatesDocuments (c :: rest) then
      s.takeOuter (if c == '-' then .documentStart else .documentEnd) (s.cursor.skip 3)
    else if c == '[' then s.takeOpen .listOpen
    else if c == '\x7b' then s.takeOpen .mapOpen
    else if c == ']' then s.takeClose .listClose
    else if c == '\x7d' then s.takeClose .mapClose
    else if c == ',' then s.takeComma
    else if c == '-' && startsBlank rest then s.takeEntry
    else if c == '?' && marks then s.takeKey
    else if c == ':' && marks then s.takeValue
    else if c == '*' then s.takeName .reference
    else if c == '&' then s.takeName .anchor
    else if c == '!' then s.takeTag
    else if c == '|' && !s.inFlow then s.takeBlock false
    else if c == '>' && !s.inFlow then s.takeBlock true
    else if c == '\'' then s.takeQuoted singleQuoted?
    else if c == '"' then s.takeQuoted doubleQuoted?
    else if isLineBlank c || isIndicator c then none
    else s.takePlain

/-- Takes tokens to the end of the text. Each takes up a character, so `fuel` need not be more than
their number and one. -/
def takeAll : Nat → Layout → Option Layout
  | 0, _ => none
  | fuel + 1, s => do
    let s ← s.toNext
    if s.cursor.rest.isEmpty then (s.closeBlocks fun _ => true).dropCandidate
    else takeAll fuel (← s.takeToken)

end Layout

/-- The tokens of a text, or nothing where it has a part that is no token. -/
def tokens? (text : List Char) : Option (List Token) := do
  if !text.all isAllowed then none
  let layout ← Layout.takeAll (text.length + 1) { cursor := ⟨unifyBreaks text, {}⟩ }
  return layout.tokens.reverse

end GraphLoad.Yaml
