import GraphLoad.Document.Value
import GraphLoad.Text.Count

/-! What a data format has to offer so that domain types can be read from its documents. -/

namespace GraphLoad

/-- A kind of document part that typed data can be read from. A reading runs in `m`, which can fail
and keeps track of what a reading of the whole document uses up. -/
class Format (α : Type) (m : outParam (Type → Type)) where
  /-- The part as a text. -/
  text? : α → m String
  /-- The part as a text that may be missing. -/
  optionalText? : α → m (Option String)
  /-- The part as a truth value. -/
  flag? : α → m Bool
  /-- The part as an unsigned 32-bit number. -/
  count? : α → m UInt32
  /-- The part as a list. -/
  list? : α → m (List α)
  /-- The part as names with values, in their order. -/
  entries? : α → m (List (String × α))
  /-- The part as a record whose fields have the given spellings: the value of each field, or
  nothing where it is left out. Fields of other names are passed over. -/
  record? : List (List String) → α → m (List (Option α))
  /-- The part as the name of a case without content. -/
  case? : α → m String
  /-- The part as the name of a case and its content. -/
  taggedCase? : α → m (String × α)

/-- The value of a field among named values, under any of its spellings.

A field given twice, under one spelling or under two, is refused. -/
def field? {α : Type} (entries : List (String × α)) (spellings : List String) :
    Option (Option α) :=
  match entries.filter fun entry => spellings.contains entry.1 with
  | [] => some none
  | [(_, value)] => some (some value)
  | _ => none

namespace Format

variable {α β : Type} {m : Type → Type} [Format α m] [Monad m] [MonadExceptOf Unit m]

/-- A required field. -/
def required (read : α → m β) : Option α → m β
  | some value => read value
  | none => throw ()

/-- A field that falls back to a default where it is left out. -/
def optional (read : α → m β) (default : β) : Option α → m β
  | some value => read value
  | none => pure default

/-- A list whose items are all read alike. -/
def listOf? (read : α → m β) (value : α) : m (List β) := do
  (← list? value).mapM read

/-- The fields of a record in which each has one spelling. -/
def fields? (names : List String) (value : α) : m (List (Option α)) :=
  record? (names.map ([·])) value

end Format

end GraphLoad
