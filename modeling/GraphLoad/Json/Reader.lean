import GraphLoad.Document.Value
import GraphLoad.Json.Token

/-! Reading JSON: tokens are taken one after the other, and open lists and objects wait on a stack,
so nesting may be of any depth. -/

namespace GraphLoad.Json

/-- A list or object that is still open, with its parts so far, latest first. -/
inductive Frame where
  | list (items : List Value)
  /-- An object, with the key that waits for its value. -/
  | object (fields : List (Option String × Value)) (key : Option String)
deriving Repr

/-- What may come next, together with what is open around it. -/
inductive State where
  /-- A value, or the end of the list just opened. -/
  | value (canClose : Bool) (stack : List Frame)
  /-- A key of an object with the given fields, or the end of the object just opened. -/
  | key (canClose : Bool) (fields : List (Option String × Value)) (stack : List Frame)
  /-- The colon after a key. -/
  | colon (key : Option String) (fields : List (Option String × Value)) (stack : List Frame)
  /-- A comma, or the end of the innermost list or object. -/
  | after (stack : List Frame)
  /-- Nothing more. -/
  | done (result : Value)
deriving Repr

/-- Hands a finished value to what is open around it. -/
def deliver (v : Value) : List Frame → State
  | [] => .done v
  | .list items :: stack => .after (.list (v :: items) :: stack)
  | .object fields key :: stack => .after (.object ((key, v) :: fields) none :: stack)

/-- The object with some fields, latest first. Without the text of a key there is nothing to read.
-/
def closeObject (fields : List (Option String × Value)) : Value :=
  match fields.reverse.mapM fun (key, v) => key.map (·, v) with
  | some named => .record named
  | none => .unreadable

/-- The value of a string. -/
def stringValue : Option (List Char) → Value
  | some content => .text (String.ofList content)
  | none => .unreadable

/-- Takes one more token. -/
def step : State → Token → Option State
  | .value _ stack, .null => some (deliver .null stack)
  | .value _ stack, .flag b => some (deliver (.flag b) stack)
  | .value _ stack, .number literal => some (deliver (.number (String.ofList literal)) stack)
  | .value _ stack, .string content => some (deliver (stringValue content) stack)
  | .value _ stack, .listOpen => some (.value true (.list [] :: stack))
  | .value _ stack, .objectOpen => some (.key true [] stack)
  | .value true (.list items :: stack), .listClose => some (deliver (.list items.reverse) stack)
  | .key _ fields stack, .string content =>
    some (.colon (content.map String.ofList) fields stack)
  | .key true fields stack, .objectClose => some (deliver (closeObject fields) stack)
  | .colon key fields stack, .colon => some (.value false (.object fields key :: stack))
  | .after (.list items :: stack), .comma => some (.value false (.list items :: stack))
  | .after (.list items :: stack), .listClose => some (deliver (.list items.reverse) stack)
  | .after (.object fields _ :: stack), .comma => some (.key false fields stack)
  | .after (.object fields _ :: stack), .objectClose =>
    some (deliver (closeObject fields) stack)
  | _, _ => none

/-- The value that a sequence of tokens writes. -/
def ofTokens? (tokens : List Token) : Option Value :=
  match tokens.foldlM step (.value false []) with
  | some (.done v) => some v
  | _ => none

/-- The document that a text writes, or nothing where the text is not JSON. -/
def parse? (text : String) : Option Value :=
  (tokens? text.toList).bind ofTokens?

end GraphLoad.Json
