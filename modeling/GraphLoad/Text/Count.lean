/-! Unsigned 32-bit counts and the decimal texts they are read from. -/

namespace GraphLoad

/-- The value of a digit in a base of at most sixteen; letters count in either case. -/
def digit? (base : Nat) (c : Char) : Option Nat :=
  let value? :=
    if '0' ≤ c ∧ c ≤ '9' then some (c.toNat - '0'.toNat)
    else if 'a' ≤ c ∧ c ≤ 'f' then some (c.toNat - 'a'.toNat + 10)
    else if 'A' ≤ c ∧ c ≤ 'F' then some (c.toNat - 'A'.toNat + 10)
    else none
  value?.filter (· < base)

/-- The number written by a nonempty run of digits, or `none` for any other text. -/
def numeral? (base : Nat) (digits : List Char) : Option Nat :=
  if digits.isEmpty then none
  else digits.foldlM (fun value c => (digit? base c).map (base * value + ·)) 0

/-- Why a text is not a count. -/
inductive CountError where
  /-- There is no text at all. -/
  | empty
  /-- Some character is not a digit, or a sign stands alone. -/
  | notDigit
  /-- The digits read so far already need more than 32 bits. -/
  | tooLarge
deriving DecidableEq, Repr

namespace CountError

/-- The reason in words. -/
def message : CountError → String
  | empty => "cannot parse integer from empty string"
  | notDigit => "invalid digit found in string"
  | tooLarge => "number too large to fit in target type"

end CountError

/-- The count that starts with the digits of `value` and goes on with `digits`. -/
def countFrom (value : Nat) : List Char → Except CountError UInt32
  | [] => .ok (UInt32.ofNat value)
  | c :: rest =>
    match digit? 10 c with
    | none => .error .notDigit
    | some d =>
      if 10 * value + d < UInt32.size then countFrom (10 * value + d) rest else .error .tooLarge

/-- Reads a count: an optional plus sign, then decimal digits, leading zeros among them. -/
def readCount : List Char → Except CountError UInt32
  | [] => .error .empty
  | ['+'] => .error .notDigit
  | '+' :: digits => countFrom 0 digits
  | digits => countFrom 0 digits

end GraphLoad
