/-! Document trees: what a text in a data format says, whatever the format. -/

namespace GraphLoad

/-- A document tree. -/
inductive Value where
  /-- Nothing. -/
  | null
  /-- A truth value. -/
  | flag (value : Bool)
  /-- A number, as it is written. -/
  | number (literal : String)
  /-- A text. -/
  | text (value : String)
  /-- Items in order. -/
  | list (items : List Value)
  /-- Named fields in order. -/
  | record (fields : List (String × Value))
  /-- A part that is well formed and still says nothing, as one of its strings is no Unicode text.
  -/
  | unreadable
deriving Repr, Inhabited

namespace Value

/-- A number that counts something. -/
def count (n : UInt32) : Value :=
  .number (toString n.toNat)

/-- A field that is left out where it has no value. -/
def textField? (name : String) (value : Option String) : List (String × Value) :=
  match value with
  | some content => [(name, .text content)]
  | none => []

end Value

end GraphLoad
