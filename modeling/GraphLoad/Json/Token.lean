import GraphLoad.Text.Count

/-! The tokens of JSON, and the split of a text into them. -/

namespace GraphLoad.Json

/-- A token of JSON. -/
inductive Token where
  /-- An opening bracket of a list. -/
  | listOpen
  /-- A closing bracket of a list. -/
  | listClose
  /-- An opening brace of an object. -/
  | objectOpen
  /-- A closing brace of an object. -/
  | objectClose
  | comma
  | colon
  | null
  | flag (value : Bool)
  /-- A number as it is written. -/
  | number (literal : List Char)
  /-- A string, or nothing for a string in which an escaped surrogate has no partner. -/
  | string (content : Option (List Char))
deriving DecidableEq, Repr

/-- Whether a character may stand between tokens. -/
def isSpace (c : Char) : Bool :=
  c == ' ' || c == '\t' || c == '\r' || c == '\n'

/-- Whether a character may stand in a number. -/
def isNumberChar (c : Char) : Bool :=
  c.isDigit || c == '-' || c == '+' || c == '.' || c == 'e' || c == 'E'

/-- What is left of a number after its digits. -/
def afterDigits (text : List Char) : Option (List Char) :=
  match text with
  | c :: _ => if c.isDigit then some (text.dropWhile Char.isDigit) else none
  | [] => none

/-- Whether a text is the exponent of a number, or empty. -/
def isExponent : List Char → Bool
  | [] => true
  | e :: rest =>
    (e == 'e' || e == 'E') &&
      let digits := match rest with
        | '+' :: digits | '-' :: digits => digits
        | digits => digits
      afterDigits digits == some []

/-- Whether a text is the fraction and exponent of a number, either of which may be missing. -/
def isFraction : List Char → Bool
  | '.' :: rest => (afterDigits rest).any isExponent
  | rest => isExponent rest

/-- Whether a text is an unsigned number; no zero may lead other digits. -/
def isUnsigned : List Char → Bool
  | '0' :: rest => isFraction rest
  | text => (afterDigits text).any isFraction

/-- Whether a text is a number. -/
def isNumber : List Char → Bool
  | '-' :: text => isUnsigned text
  | text => isUnsigned text

/-- The token a run of letters stands for. -/
def word? (letters : List Char) : Option Token :=
  if letters = "null".toList then some .null
  else if letters = "true".toList then some (.flag true)
  else if letters = "false".toList then some (.flag false)
  else none

/-- The token a run of number characters stands for. -/
def number? (literal : List Char) : Option Token :=
  if isNumber literal then some (.number literal) else none

/-- The token a single punctuation mark stands for. -/
def mark? : Char → Option Token
  | '[' => some .listOpen
  | ']' => some .listClose
  | '\x7b' => some .objectOpen
  | '\x7d' => some .objectClose
  | ',' => some .comma
  | ':' => some .colon
  | _ => none

/-- The character that a backslash and a letter stand for. -/
def escaped? : Char → Option Char
  | '"' => some '"'
  | '\\' => some '\\'
  | '/' => some '/'
  | 'b' => some '\x08'
  | 'f' => some '\x0c'
  | 'n' => some '\n'
  | 'r' => some '\r'
  | 't' => some '\t'
  | _ => none

/-- The part of a string read so far. -/
structure Unfinished where
  /-- The characters, latest first. -/
  chars : List Char := []
  /-- A high surrogate that waits for its partner. -/
  high : Option Nat := none
  /-- No surrogate has been left without a partner. -/
  paired : Bool := true
deriving DecidableEq, Repr

namespace Unfinished

/-- Adds a character; a surrogate that waits is left alone. -/
def push (p : Unfinished) (c : Char) : Unfinished where
  chars := c :: p.chars
  paired := p.paired && p.high.isNone

/-- Adds a code unit given by an escape. -/
def pushUnit (p : Unfinished) (unit : Nat) : Unfinished :=
  if 0xD800 ≤ unit ∧ unit < 0xDC00 then
    { p with high := some unit, paired := p.paired && p.high.isNone }
  else if 0xDC00 ≤ unit ∧ unit < 0xE000 then
    match p.high with
    | some high =>
      { p with
        chars := Char.ofNat (0x10000 + (high - 0xD800) * 0x400 + (unit - 0xDC00)) :: p.chars
        high := none }
    | none => { p with paired := false }
  else p.push (Char.ofNat unit)

/-- The token of the finished string. -/
def token (p : Unfinished) : Token :=
  .string (if p.paired && p.high.isNone then some p.chars.reverse else none)

end Unfinished

/-- What the next character belongs to. -/
inductive Mode where
  /-- The start of a token. -/
  | start
  /-- A number whose characters so far are given, latest first. -/
  | number (chars : List Char)
  /-- A word whose letters so far are given, latest first. -/
  | word (letters : List Char)
  /-- A string. -/
  | string (content : Unfinished)
deriving DecidableEq, Repr

/-- Splits a text into tokens, which are put in front of those found before, latest first. -/
def lex (found : List Token) : Mode → List Char → Option (List Token)
  | .start, [] => some found
  | .number chars, [] => return (← number? chars.reverse) :: found
  | .word letters, [] => return (← word? letters.reverse) :: found
  | .string _, [] => none
  | .string content, '"' :: rest => lex (content.token :: found) .start rest
  | .string content, '\\' :: 'u' :: a :: b :: c :: d :: rest => do
    lex found (.string (content.pushUnit (← numeral? 16 [a, b, c, d]))) rest
  | .string content, '\\' :: c :: rest => do
    lex found (.string (content.push (← escaped? c))) rest
  | .string content, c :: rest =>
    if c.toNat < 0x20 ∨ c = '\\' then none else lex found (.string (content.push c)) rest
  | .number chars, c :: rest =>
    -- A number and a word end at the first character that is no part of them.
    if isNumberChar c then lex found (.number (c :: chars)) rest
    else do
      let found := (← number? chars.reverse) :: found
      if isSpace c then lex found .start rest
      else lex ((← mark? c) :: found) .start rest
  | .word letters, c :: rest =>
    if c.isAlpha then lex found (.word (c :: letters)) rest
    else do
      let found := (← word? letters.reverse) :: found
      if isSpace c then lex found .start rest
      else lex ((← mark? c) :: found) .start rest
  | .start, c :: rest =>
    if isSpace c then lex found .start rest
    else if c = '"' then lex found (.string {}) rest
    else if isNumberChar c then lex found (.number [c]) rest
    else if c.isAlpha then lex found (.word [c]) rest
    else do lex ((← mark? c) :: found) .start rest

/-- The tokens of a text, or nothing where it has a part that is no token. -/
def tokens? (text : List Char) : Option (List Token) :=
  (lex [] .start text).map List.reverse

end GraphLoad.Json
