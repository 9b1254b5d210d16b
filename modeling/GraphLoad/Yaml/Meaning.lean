import GraphLoad.Text.Count

/-! What plain scalars mean: nothing, truth values, and numbers. -/

namespace GraphLoad.Yaml

/-- Whether a scalar is a word for nothing. -/
def isNull (text : String) : Bool :=
  ["null", "Null", "NULL", "~"].contains text

/-- The truth value a scalar stands for. -/
def flag? (text : String) : Option Bool :=
  if ["true", "True", "TRUE"].contains text then some true
  else if ["false", "False", "FALSE"].contains text then some false
  else none

/-- A text without the sign it starts with, if any. -/
def unsigned : List Char → List Char
  | '+' :: digits | '-' :: digits => digits
  | digits => digits

/-- Whether a text is digits led by a needless zero, which makes it no number. -/
def hasLeadingZero (text : List Char) : Bool :=
  match unsigned text with
  | '0' :: c :: rest => (c :: rest).all Char.isDigit
  | _ => false

/-- The number that a mark for its base and digits write. -/
def based? : List Char → Option Nat
  | '0' :: 'x' :: digits => numeral? 16 digits
  | '0' :: 'o' :: digits => numeral? 8 digits
  | '0' :: 'b' :: digits => numeral? 2 digits
  | _ => none

/-- A number of digits in any base, without a sign or needless zeros. -/
def magnitude? (text : List Char) : Option Nat :=
  based? text <|> if hasLeadingZero text then none else numeral? 10 text

/-- The natural number a scalar stands for; a plus sign may lead it. -/
def natural? : List Char → Option Nat
  | '+' :: text => magnitude? text
  | text => magnitude? text

/-- The unsigned 32-bit number a scalar stands for. -/
def count? (text : String) : Option UInt32 := do
  let n ← natural? text.toList
  if n < UInt32.size then some (UInt32.ofNat n) else none

/-- Whether a scalar stands for an integer of at most 128 bits. -/
def isInteger (text : List Char) : Bool :=
  match text with
  | '-' :: digits => (magnitude? digits).any (· ≤ Nat.pow 2 127)
  | _ => (natural? text).any (· < Nat.pow 2 128)

/-- A decimal number: digits around a point, scaled by a power of ten. -/
structure Decimal where
  /-- All digits, before and after the point. -/
  digits : List Char
  /-- The power of ten the last digit stands for. -/
  exponent : Int
deriving DecidableEq, Repr

/-- The decimal number a text writes without a sign; at least one digit stands around the point. -/
def decimal? (text : List Char) : Option Decimal := do
  let whole := text.takeWhile Char.isDigit
  let (fraction, rest) := match text.dropWhile Char.isDigit with
    | '.' :: rest => (rest.takeWhile Char.isDigit, rest.dropWhile Char.isDigit)
    | rest => ([], rest)
  if whole.isEmpty && fraction.isEmpty then none
  let scale ← match rest with
    | [] => some (0 : Int)
    | e :: power =>
      if e = 'e' ∨ e = 'E' then
        match power with
        | '-' :: digits => (numeral? 10 digits).map fun n => -(n : Int)
        | '+' :: digits | digits => (numeral? 10 digits).map fun n => (n : Int)
      else none
  return ⟨whole ++ fraction, scale - fraction.length⟩

/-- Half a unit above the greatest finite double, where rounding turns to infinity. -/
def doubleLimit : Nat := Nat.pow 2 1024 - Nat.pow 2 970

/-- Whether a decimal number rounds to a finite double. -/
def Decimal.isFinite (d : Decimal) : Bool :=
  let digits := d.digits.dropWhile (· == '0')
  -- The leading digit stands for this power of ten, less one; powers far off need no arithmetic.
  let place := digits.length + d.exponent
  if digits.isEmpty || place ≤ 308 then true
  else if place ≥ 310 then false
  else
    let value := (numeral? 10 digits).getD 0
    value * Nat.pow 10 d.exponent.toNat < doubleLimit * Nat.pow 10 (-d.exponent).toNat

/-- Whether a scalar stands for a floating-point number. -/
def isFloat (text : String) : Bool :=
  let chars := text.toList
  let special := [".inf", ".Inf", ".INF"].map String.toList
  let positive := match chars with
    | '+' :: rest => rest
    | rest => rest
  special.contains positive
    || (special.map ('-' :: ·)).contains chars
    || [".nan", ".NaN", ".NAN"].contains text
    || match chars with
      | '+' :: rest | '-' :: rest | rest => (decimal? rest).any Decimal.isFinite

/-- Whether a text would be read as something else than a text if it stood there plain. -/
def isAmbiguous (text : String) : Bool :=
  text.isEmpty || isNull text || (flag? text).isSome || isInteger text.toList
    || hasLeadingZero text.toList || isFloat text

end GraphLoad.Yaml
