import GraphLoad.Document.Format

/-! Reading typed data from document trees, strictly: every part has the one shape it is written in,
save that a record may be a list of its fields. -/

namespace GraphLoad

namespace Value

/-- A text of decimal digits as an unsigned 32-bit number. -/
def countOfLiteral? (literal : String) : Option UInt32 :=
  match literal.toList with
  | '+' :: _ => none
  | digits => (readCount digits).toOption

/-- The fields of a record, by name or by place. -/
def fieldValues? (spellings : List (List String)) : Value → Option (List (Option Value))
  | record entries => spellings.mapM (field? entries)
  | list items =>
    -- Fields at the end may be missing, but no item may be left over.
    if items.length ≤ spellings.length then
      some (items.map some ++ List.replicate (spellings.length - items.length) none)
    else none
  | _ => none

/-- The name of a case without content, which may stand alone or as the one field of a record. -/
def caseName? : Value → Option String
  | text name => some name
  | record [(name, null)] => some name
  | _ => none

end Value

instance : Format Value Option where
  text?
    | .text value => some value
    | _ => none
  optionalText?
    | .null => some none
    | .text value => some (some value)
    | _ => none
  flag?
    | .flag value => some value
    | _ => none
  count?
    | .number literal => Value.countOfLiteral? literal
    | _ => none
  list?
    | .list items => some items
    | _ => none
  entries?
    | .record fields => some fields
    | _ => none
  record? := Value.fieldValues?
  case? := Value.caseName?
  taggedCase?
    | .record [(name, content)] => some (name, content)
    | _ => none

end GraphLoad
