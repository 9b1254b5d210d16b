import GraphLoad.Document.Value
import GraphLoad.Json.Writer
import GraphLoad.Yaml.Char
import GraphLoad.Yaml.Meaning

/-! Writing YAML in block style; a text is written in the plainest style that keeps it. -/

namespace GraphLoad.Yaml

/-- The ways to write a text. -/
inductive Style where
  /-- As it is. -/
  | plain
  /-- Between single quotes. -/
  | single
  /-- Between double quotes, with escapes. -/
  | double
  /-- As indented lines. -/
  | literal
deriving DecidableEq, Repr

/-- Whether some character of a text and the text after it have a property. -/
def anyTail (p : Char → List Char → Bool) : List Char → Bool
  | [] => false
  | c :: rest => p c rest || anyTail p rest

/-- Whether only escapes keep a text: it has a character that cannot be written, or a space at the
end of a line. -/
def isSpecial (text : List Char) : Bool :=
  text.any (!isPrintable ·) || anyTail (fun c rest => c == ' ' && rest.head?.any isBreak) text

/-- Whether a text starts like a mark that separates documents. -/
def startsDocument (text : List Char) : Bool :=
  "---".toList.isPrefixOf text || "...".toList.isPrefixOf text

/-- Whether a text starts with a mark that must not be followed by white space. -/
def startsEntry : List Char → Bool
  | c :: rest => (c == '-' || c == '?' || c == ':') && startsBlank rest
  | [] => false

/-- Whether a text has a comment or the end of a key in it. -/
def hasMark (text : List Char) : Bool :=
  anyTail (fun c rest => (c == ':' && startsBlank rest)
    || ((isLineBlank c || isBreak c) && rest.head? == some '#')) text

/-- Whether a text is surrounded by nothing that its lines would lose. -/
def isTight (text : List Char) : Bool :=
  let isEdge (c : Char) := c == ' ' || isBreak c
  !text.head?.any isEdge && !text.getLast?.any isEdge

/-- Whether a text keeps its meaning without quotes. -/
def canBePlain (text : List Char) : Bool :=
  !isSpecial text && isTight text && !text.any isBreak && !startsDocument text
    && !text.head?.any isIndicator && !startsEntry text && !hasMark text

/-- Whether single quotes keep a text. -/
def canBeSingle (text : List Char) : Bool :=
  !isSpecial text && !anyTail (fun c rest => isBreak c && rest.head? == some ' ') text

/-- Whether indented lines keep a text. -/
def canBeLiteral (text : List Char) : Bool :=
  !isSpecial text && text.getLast? != some ' '

/-- The style a text is written in. -/
def style (text : String) : Style :=
  let chars := text.toList
  if chars.contains '\n' then
    if canBeLiteral chars then .literal else .double
  else if !isAmbiguous text && canBePlain chars then .plain
  else if canBeSingle chars then .single
  else .double

/-- A number in as many capital hexadecimal digits as asked for. -/
def hexDigits : Nat → Nat → List Char
  | 0, _ => []
  | width + 1, n => hexDigits width (n / 16) ++ [(Json.hexDigit (n % 16)).toUpper]

/-- The escape for a character. -/
def escapeCode (c : Char) : List Char :=
  match c with
  | '\x00' => ['0']
  | '\x07' => ['a']
  | '\x08' => ['b']
  | '\t' => ['t']
  | '\n' => ['n']
  | '\x0b' => ['v']
  | '\x0c' => ['f']
  | '\r' => ['r']
  | '\x1b' => ['e']
  | '"' => ['"']
  | '\\' => ['\\']
  | '\u0085' => ['N']
  | '\u2028' => ['L']
  | '\u2029' => ['P']
  | c =>
    if c.toNat < 0x100 then 'x' :: hexDigits 2 c.toNat
    else if c.toNat < 0x10000 then 'u' :: hexDigits 4 c.toNat
    else 'U' :: hexDigits 8 c.toNat

/-- A text between double quotes. -/
def doubleQuoted (text : List Char) : List Char :=
  let write (c : Char) : List Char :=
    if !isPrintable c || isBreak c || c == '"' || c == '\\' then '\\' :: escapeCode c else [c]
  '"' :: (text.flatMap write ++ ['"'])

/-- Indents what comes after line breaks; empty lines are left empty.

At the start, `fresh` tells whether a line has just begun. -/
def indentLines (indent : Nat) (fresh : Bool) : List Char → List Char
  | [] => []
  | c :: rest =>
    if isBreak c then c :: indentLines indent true rest
    else (if fresh then List.replicate indent ' ' else []) ++ c :: indentLines indent false rest

/-- A text between single quotes, whose lines after the first are indented. -/
def singleQuoted (indent : Nat) (text : List Char) : List Char :=
  let doubled := text.flatMap fun c => if c = '\'' then ['\'', '\''] else [c]
  '\'' :: indentLines indent false (doubled ++ ['\''])

/-- What a literal block says about the line breaks at its end. -/
def chomping (text : List Char) : List Char :=
  match text.reverse with
  | [] => ['-']
  | [c] => if isBreak c then ['+'] else ['-']
  | last :: before :: _ =>
    if !isBreak last then ['-'] else if isBreak before then ['+'] else []

/-- A text as a literal block, whose lines are indented. -/
def literalBlock (indent : Nat) (text : List Char) : List Char :=
  -- The indentation has to be told where it cannot be seen from the first line.
  let hint := if text.head?.any fun c => c == ' ' || isBreak c then ['2'] else []
  '|' :: (hint ++ chomping text ++ '\n' :: indentLines indent true text)

/-- A scalar up to the start of the next line; its own lines are indented by two more than `indent`.
-/
def scalarText (indent : Nat) (text : String) : List Char :=
  let chars := text.toList
  match style text with
  | .plain => chars ++ ['\n']
  | .single => singleQuoted (indent + 2) chars ++ ['\n']
  | .double => doubleQuoted chars ++ ['\n']
  | .literal =>
    let block := literalBlock (indent + 2) chars
    -- A block whose text ends in a line break has ended its last line already.
    if chars.getLast?.any isBreak then block else block ++ ['\n']

/-- A text as a key, which stays within a line. -/
def keyText (text : String) : List Char :=
  let chars := text.toList
  if chars.any isBreak then doubleQuoted chars
  else
    match style text with
    | .plain => chars
    | .single => singleQuoted 0 chars
    | .double | .literal => doubleQuoted chars

mutual

/-- A value up to the start of the next line, behind a key that stands at `indent`. -/
def fieldValue (indent : Nat) : Value → List Char
  | .list [] => " []\n".toList
  | .list items => '\n' :: itemLines indent items
  | .record [] => " \x7b\x7d\n".toList
  | .record fields =>
    let lead := List.replicate (indent + 2) ' '
    '\n' :: (fieldTexts (indent + 2) fields).flatMap (lead ++ ·)
  | .text content => ' ' :: scalarText indent content
  | .flag b => ' ' :: (toString b).toList ++ ['\n']
  | .number literal => ' ' :: literal.toList ++ ['\n']
  | .null | .unreadable => " null\n".toList

/-- The items of a list, each behind a dash that stands at `indent`. -/
def itemLines (indent : Nat) : List Value → List Char
  | [] => []
  | .record (field :: fields) :: rest =>
    -- The first field stands on the line of the dash and the others below it.
    let lead := List.replicate (indent + 2) ' '
    List.replicate indent ' ' ++ '-' :: ' '
      :: (lead.intercalate (fieldTexts (indent + 2) (field :: fields))
        ++ itemLines indent rest)
  | item :: rest =>
    List.replicate indent ' ' ++ '-' :: (fieldValue indent item ++ itemLines indent rest)

/-- The fields of a record that stands at `indent`, without the indentation of the first lines. -/
def fieldTexts (indent : Nat) : List (String × Value) → List (List Char)
  | [] => []
  | (name, v) :: rest =>
    (keyText name ++ ':' :: fieldValue indent v)
      :: fieldTexts indent rest

end

/-- The text of a document. -/
def render (v : Value) : String :=
  String.ofList <|
    match v with
    | .record (field :: fields) => (fieldTexts 0 (field :: fields)).flatten
    | .list (item :: items) => itemLines 0 (item :: items)
    -- All else is written as behind a key, less the space that parts it from the key.
    | single => (fieldValue 0 single).drop 1

end GraphLoad.Yaml
