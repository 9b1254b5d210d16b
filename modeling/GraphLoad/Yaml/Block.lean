import GraphLoad.Yaml.Place
import GraphLoad.Yaml.Token

/-! Scalars as indented lines, which are kept as they are or joined. -/

namespace GraphLoad.Yaml

/-- What becomes of the line breaks at the end of an indented scalar. -/
inductive Chomp where
  /-- All are dropped. -/
  | strip
  /-- The first is kept. -/
  | clip
  /-- All are kept. -/
  | keep
deriving DecidableEq, Repr

/-- What the first line of an indented scalar says about it. -/
structure BlockHeader where
  /-- What becomes of the line breaks at the end. -/
  chomp : Chomp
  /-- The depth of the indentation, where it is told. -/
  depth : Option Nat
deriving DecidableEq, Repr

/-- What a sign says about the line breaks at the end. -/
def chomp? : Char → Option Chomp
  | '-' => some .strip
  | '+' => some .keep
  | _ => none

/-- The depth that a digit tells, which is never zero. -/
def depth? (c : Char) : Option Nat :=
  if c.isDigit && c != '0' then some (c.toNat - '0'.toNat) else none

/-- Reads what follows the bar of an indented scalar: a sign and a digit in either order, both of
which may be missing. A zero is refused as no line follows that could end the header. -/
def blockHeader : List Char → BlockHeader × List Char
  | c :: rest =>
    match chomp? c, depth? c with
    | some chomp, _ =>
      match rest.head?.bind depth? with
      | some depth => (⟨chomp, some depth⟩, rest.drop 1)
      | none => (⟨chomp, none⟩, rest)
    | none, some depth =>
      match rest.head?.bind chomp? with
      | some chomp => (⟨chomp, some depth⟩, rest.drop 1)
      | none => (⟨.clip, some depth⟩, rest)
    | none, none => (⟨.clip, none⟩, c :: rest)
  | [] => (⟨.clip, none⟩, [])

/-- The lines of an indented scalar read so far. Lists have the latest first. -/
structure BlockText where
  /-- The characters up to the last that stands in a line. -/
  kept : List Char := []
  /-- The break at the end of the last line. -/
  ending : Option Char := none
  /-- The breaks of the empty lines after it. -/
  further : List Char := []
  /-- The last line starts with white space, so it is never joined. -/
  startsBlank : Bool := false
deriving DecidableEq, Repr

namespace BlockText

/-- Adds a character of a line. -/
def push (b : BlockText) (c : Char) : BlockText :=
  { b with kept := c :: b.kept }

/-- Starts a line with its first character; a line before it that may be joined to it, is. -/
def startLine (b : BlockText) (joins : Bool) (c : Char) : BlockText :=
  let between : List Char :=
    if joins && b.ending == some '\n' && !b.startsBlank && !isLineBlank c then
      if b.further.isEmpty then [' '] else []
    else b.ending.toList
  { kept := c :: (b.further ++ (between ++ b.kept)), startsBlank := isLineBlank c }

/-- Ends a line. -/
def endLine (b : BlockText) (c : Char) : BlockText :=
  { b with ending := some c }

/-- Adds an empty line. -/
def emptyLine (b : BlockText) (c : Char) : BlockText :=
  { b with further := c :: b.further }

/-- The text, with as many line breaks at its end as are kept. -/
def chomped (b : BlockText) : Chomp → List Char
  | .strip => b.kept.reverse
  | .clip => (b.ending.toList ++ b.kept).reverse
  | .keep => (b.further ++ (b.ending.toList ++ b.kept)).reverse

end BlockText

/-- Reads the empty lines in front of an indented scalar and tells how far it is indented: as the
deepest of them and of the first line that is not empty, and at least by `least`. -/
def findIndent? (least : Nat) (b : BlockText) (p : Place) :
    List Char → Option (Nat × BlockText × Cursor)
  | [] => some (max least p.column, b, ⟨[], p⟩)
  | c :: rest =>
    if c = ' ' then findIndent? least b (p.after c) rest
    else if c = '\t' then none
    else if isBreak c then findIndent? (max least p.column) (b.emptyLine c) (p.after c) rest
    else some (max least p.column, b, ⟨c :: rest, p⟩)

/-- Reads the lines of an indented scalar, which ends before the first line that is indented less.

`inLine` tells whether the next character belongs to a line that has started. -/
def blockLines? (joins : Bool) (indent : Nat) (inLine : Bool) (b : BlockText) (p : Place) :
    List Char → Option (BlockText × Cursor)
  | [] => some (b, ⟨[], p⟩)
  | c :: rest =>
    if inLine then
      if isBreak c then blockLines? joins indent false (b.endLine c) (p.after c) rest
      else blockLines? joins indent true (b.push c) (p.after c) rest
    else if p.column < indent ∧ c = ' ' then blockLines? joins indent false b (p.after c) rest
    else if p.column < indent ∧ c = '\t' then none
    else if isBreak c then blockLines? joins indent false (b.emptyLine c) (p.after c) rest
    else if p.column = indent then
      blockLines? joins indent true (b.startLine joins c) (p.after c) rest
    else some (b, ⟨c :: rest, p⟩)

/-- Reads an indented scalar behind its bar. Its lines are indented deeper than `base`, from where
an indentation that is told is counted. -/
def blockScalar? (joins : Bool) (base : Nat) (c : Cursor) : Option (List Char × Cursor) := do
  let (header, rest) := blockHeader c.rest
  let c ← (c.moveTo rest).endLine?
  let (b, c) ← match header.depth with
    | some depth => blockLines? joins (base + depth) false {} c.place c.rest
    | none => do
      let (indent, b, c) ← findIndent? (base + 1) {} c.place c.rest
      blockLines? joins indent false b c.place c.rest
  return (b.chomped header.chomp, c)

end GraphLoad.Yaml
