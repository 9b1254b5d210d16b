import GraphLoad.Json.Reader
import GraphLoad.Proofs.Json.Token
import GraphLoad.Proofs.Text.Unambiguous

/-! Documents survive being written as JSON: the text of a document is split into its tokens, and
these are read as the document. -/

namespace GraphLoad

/-- Documents that JSON can hold: their numbers are those of JSON, and no part of them is
unreadable. -/
inductive Value.Legible : Value → Prop where
  | null : Legible .null
  | flag (value : Bool) : Legible (.flag value)
  | number {literal : String} (numeral : Json.isNumber literal.toList = true) :
    Legible (.number literal)
  | text (content : String) : Legible (.text content)
  | list {items : List Value} (each : ∀ v ∈ items, Legible v) : Legible (.list items)
  | record {fields : List (String × Value)} (each : ∀ field ∈ fields, Legible field.2) :
    Legible (.record fields)

namespace Json

mutual

/-- The tokens that a value is written as. -/
def tokensOf : Value → List Token
  | .null | .unreadable => [.null]
  | .flag b => [.flag b]
  | .number literal => [.number literal.toList]
  | .text content => [.string (some content.toList)]
  | .list items => .listOpen :: ([.comma].intercalate (itemTokens items) ++ [.listClose])
  | .record fields =>
    .objectOpen :: ([.comma].intercalate (fieldTokens fields) ++ [.objectClose])

/-- The tokens of each item of a list. -/
def itemTokens : List Value → List (List Token)
  | [] => []
  | v :: rest => tokensOf v :: itemTokens rest

/-- The tokens of each field of a record. -/
def fieldTokens : List (String × Value) → List (List Token)
  | [] => []
  | (name, v) :: rest =>
    (.string (some name.toList) :: .colon :: tokensOf v) :: fieldTokens rest

end

/-- The text of a field. -/
def fieldText (depth : Nat) (field : String × Value) : List Char :=
  quote field.1 ++ ':' :: ' ' :: write depth field.2

/-- The tokens of a field. -/
def tokensOfField (field : String × Value) : List Token :=
  .string (some field.1.toList) :: .colon :: tokensOf field.2

theorem writeItems_eq (depth : Nat) (items : List Value) :
    writeItems depth items = items.map (write depth) := by
  induction items with
  | nil => rfl
  | cons v rest ih => rw [writeItems, ih, List.map_cons]

theorem writeFields_eq (depth : Nat) (fields : List (String × Value)) :
    writeFields depth fields = fields.map (fieldText depth) := by
  induction fields with
  | nil => rfl
  | cons field rest ih => rw [writeFields, ih, List.map_cons, fieldText]

theorem itemTokens_eq (items : List Value) : itemTokens items = items.map tokensOf := by
  induction items with
  | nil => rfl
  | cons v rest ih => rw [itemTokens, ih, List.map_cons]

theorem fieldTokens_eq (fields : List (String × Value)) :
    fieldTokens fields = fields.map tokensOfField := by
  induction fields with
  | nil => rfl
  | cons field rest ih => rw [fieldTokens, ih, List.map_cons, tokensOfField]

section Split

variable {α : Type} {text : α → List Char} {tokens : α → List Token}

/-- What follows a part, if anything does, starts with a comma. -/
theorem endsValue_others (text : α → List Char) (others : List α) (depth : Nat) {rest : List Char}
    (ends : EndsValue rest) :
    EndsValue ((others.flatMap fun a => ',' :: (newline depth ++ text a)) ++ rest) := by
  cases others with
  | nil => exact ends
  | cons b others => exact endsValue_cons (.inl rfl) _

/-- The parts behind the first one are split one by one, each at the comma in front of it. -/
theorem splits_others {others : List α} (each : ∀ a ∈ others, Splits (text a) (tokens a))
    (depth : Nat) :
    Splits (others.flatMap fun a => ',' :: (newline depth ++ text a))
      (others.flatMap fun a => .comma :: tokens a) := by
  induction others with
  | nil => exact fun found rest _ => rfl
  | cons a others ih =>
    obtain ⟨first, behind⟩ := List.forall_mem_cons.mp each
    intro found rest ends
    -- The value in front of a comma ends there, and the comma is a token of its own.
    have next := endsValue_others text others depth ends
    have comma : ∀ after, lex found .start (',' :: after) = lex (.comma :: found) .start after :=
      fun _ => rfl
    simp only [List.flatMap_cons, List.cons_append, List.append_assoc]
    rw [comma, lex_newline, first _ _ next, ih behind _ _ ends]
    simp only [List.reverse_cons, List.reverse_append, List.append_assoc, List.singleton_append]

/-- Parts between brackets are split into their tokens between those of the brackets. -/
theorem splits_block {opening closing : Char} {openToken closeToken : Token}
    (opens : ∀ found rest,
      lex found .start (opening :: rest) = lex (openToken :: found) .start rest)
    (closes : ∀ found rest,
      lex found .start (closing :: rest) = lex (closeToken :: found) .start rest)
    {parts : List α} (each : ∀ a ∈ parts, Splits (text a) (tokens a)) (depth : Nat) :
    Splits (block depth opening closing (parts.map text))
      (openToken :: ([.comma].intercalate (parts.map tokens) ++ [closeToken])) := by
  intro found rest _
  cases parts with
  | nil =>
    rw [List.map_nil, block, List.cons_append, List.cons_append, opens, closes]
    rfl
  | cons a others =>
    obtain ⟨first, behind⟩ := List.forall_mem_cons.mp each
    -- Behind the last part a line break leads to the closing bracket.
    have last := endsValue_newline depth (closing :: rest)
    have next := endsValue_others text others (depth + 1) last
    simp only [List.map_cons, block, intercalate_cons_eq, List.flatMap_map, List.cons_append,
      List.append_assoc, List.nil_append]
    rw [opens, lex_newline, first _ _ next, splits_others behind _ _ _ last, lex_newline, closes]
    simp only [List.reverse_cons, List.reverse_append, List.append_assoc, List.cons_append,
      List.nil_append, List.reverse_nil]

end Split

/-- The text of a legible value is split into the tokens of the value. -/
theorem splits_write {v : Value} (legible : v.Legible) (depth : Nat) :
    Splits (write depth v) (tokensOf v) := by
  -- The induction is on the parts of the document; lists and records hold legible parts.
  induction legible generalizing depth with
  | null => exact splits_null
  | flag value => exact splits_flag value
  | number numeral => exact splits_number numeral
  | text content => exact splits_quote content
  | list each ih =>
    rw [write, tokensOf, writeItems_eq, itemTokens_eq]
    exact splits_block (fun _ _ => rfl) (fun _ _ => rfl) (fun v member => ih v member _) depth
  | record each ih =>
    rw [write, tokensOf, writeFields_eq, fieldTokens_eq]
    refine splits_block (fun _ _ => rfl) (fun _ _ => rfl) (fun field member => ?_) depth
    -- A field is its name, a colon and a blank, and then its value.
    intro found rest ends
    have colon : ∀ found after, lex found .start (':' :: ' ' :: after) =
        lex (.colon :: found) .start after := fun _ _ => rfl
    rw [fieldText, List.append_assoc, lex_quote, List.cons_append, List.cons_append, colon,
      ih field member _ _ _ ends, tokensOfField]
    simp only [List.reverse_cons, List.append_assoc, List.cons_append, List.nil_append]

/-- A token that is accepted leads on to the tokens behind it. -/
theorem foldlM_cons_of_step {before after : State} {token : Token}
    (accepted : step before token = some after) (rest : List Token) :
    (token :: rest).foldlM step before = rest.foldlM step after := by
  rw [List.foldlM_cons, accepted, Option.bind_eq_bind, Option.bind_some]

/-- The tokens of a value are taken as the value, whatever is open around it. -/
def Taken (v : Value) : Prop :=
  ∀ canClose stack, (tokensOf v).foldlM step (.value canClose stack) = some (deliver v stack)

/-- A value that is taken leads on to the tokens behind it. -/
theorem Taken.foldlM_append {v : Value} (taken : Taken v) (canClose : Bool) (stack : List Frame)
    (rest : List Token) :
    (tokensOf v ++ rest).foldlM step (.value canClose stack) =
      rest.foldlM step (deliver v stack) := by
  rw [List.foldlM_append, taken, Option.bind_eq_bind, Option.bind_some]

/-- Further items are put in front of those an open list has, each at its comma. -/
theorem foldlM_items {items : List Value} (each : ∀ v ∈ items, Taken v) (before : List Value)
    (stack : List Frame) (rest : List Token) :
    ((items.flatMap fun v => .comma :: tokensOf v) ++ rest).foldlM step
        (.after (.list before :: stack)) =
      rest.foldlM step (.after (.list (items.reverse ++ before) :: stack)) := by
  induction items generalizing before with
  | nil => rfl
  | cons v items ih =>
    obtain ⟨first, behind⟩ := List.forall_mem_cons.mp each
    -- The comma opens the list for one more item, which is delivered to it.
    have opened : step (.after (.list before :: stack)) .comma =
        some (.value false (.list before :: stack)) := rfl
    rw [List.flatMap_cons, List.append_assoc, List.cons_append, foldlM_cons_of_step opened,
      first.foldlM_append, deliver, ih behind, List.reverse_cons, List.append_assoc,
      List.singleton_append]

/-- The items between the brackets of a list are taken as the list. -/
theorem taken_list {items : List Value} (each : ∀ v ∈ items, Taken v) : Taken (.list items) := by
  intro canClose stack
  have opened : step (.value canClose stack) .listOpen = some (.value true (.list [] :: stack)) :=
    rfl
  rw [tokensOf, itemTokens_eq, foldlM_cons_of_step opened]
  cases items with
  | nil => rfl
  | cons v others =>
    obtain ⟨first, behind⟩ := List.forall_mem_cons.mp each
    -- The latest item stands in front, so the closing bracket turns the list around.
    have closed : step (.after (.list (others.reverse ++ [v]) :: stack)) .listClose =
        some (deliver (.list (v :: others)) stack) := by
      simp [step]
    simp only [List.map_cons, intercalate_cons_eq, List.flatMap_map, List.singleton_append,
      List.append_assoc]
    -- The first item stands right behind the bracket, and every other one behind a comma.
    rw [first.foldlM_append, deliver, foldlM_items behind, foldlM_cons_of_step closed]
    rfl

/-- A field as it is kept in an open object. -/
def keptField (field : String × Value) : Option String × Value :=
  (some field.1, field.2)

/-- The tokens of a field are taken as the next field of an open object. -/
theorem foldlM_field {field : String × Value} (taken : Taken field.2) (canClose : Bool)
    (before : List (Option String × Value)) (stack : List Frame) (rest : List Token) :
    (tokensOfField field ++ rest).foldlM step (.key canClose before stack) =
      rest.foldlM step (.after (.object (keptField field :: before) none :: stack)) := by
  -- The key waits on the stack until the value behind the colon is finished.
  have named : step (.key canClose before stack) (.string (some field.1.toList)) =
      some (.colon (some field.1) before stack) := by
    simp [step]
  have opened : step (.colon (some field.1) before stack) .colon =
      some (.value false (.object before (some field.1) :: stack)) := rfl
  rw [tokensOfField, List.cons_append, List.cons_append, foldlM_cons_of_step named,
    foldlM_cons_of_step opened, taken.foldlM_append]
  rfl

/-- Further fields are put in front of those an open object has, each at its comma. -/
theorem foldlM_fields {fields : List (String × Value)} (each : ∀ field ∈ fields, Taken field.2)
    (before : List (Option String × Value)) (stack : List Frame) (rest : List Token) :
    ((fields.flatMap fun field => .comma :: tokensOfField field) ++ rest).foldlM step
        (.after (.object before none :: stack)) =
      rest.foldlM step
        (.after (.object ((fields.map keptField).reverse ++ before) none :: stack)) := by
  induction fields generalizing before with
  | nil => rfl
  | cons field fields ih =>
    obtain ⟨first, behind⟩ := List.forall_mem_cons.mp each
    -- The comma opens a key, and the field behind it ends with the object open again.
    have opened : step (.after (.object before none :: stack)) .comma =
        some (.key false before stack) := rfl
    rw [List.flatMap_cons, List.append_assoc, List.cons_append, foldlM_cons_of_step opened,
      foldlM_field first, ih behind, List.map_cons, List.reverse_cons, List.append_assoc,
      List.singleton_append]

/-- An object whose fields all have names is a record of these. -/
theorem closeObject_kept (fields : List (String × Value)) :
    closeObject (fields.map keptField).reverse = .record fields := by
  -- No key lacks its text, so each field is found as it was kept.
  have named : fields.mapM (fun field => some (field.1, field.2)) = some fields := by
    have whole : fields.mapM (fun field => (pure (id field) : Option _)) = pure (fields.map id) :=
      List.mapM_pure
    rwa [List.map_id] at whole
  unfold closeObject
  rw [List.reverse_reverse, List.mapM_map]
  simp only [Function.comp_def, keptField, Option.map_some, named]

/-- The fields between the braces of an object are taken as the record. -/
theorem taken_record {fields : List (String × Value)} (each : ∀ field ∈ fields, Taken field.2) :
    Taken (.record fields) := by
  intro canClose stack
  have opened : step (.value canClose stack) .objectOpen = some (.key true [] stack) := rfl
  rw [tokensOf, fieldTokens_eq, foldlM_cons_of_step opened]
  cases fields with
  | nil => rfl
  | cons field others =>
    obtain ⟨first, behind⟩ := List.forall_mem_cons.mp each
    -- The fields are kept latest first as well, and the closing brace turns them around.
    have closed :
        step (.after (.object ((others.map keptField).reverse ++ [keptField field]) none :: stack))
          .objectClose = some (deliver (.record (field :: others)) stack) := by
      rw [← closeObject_kept, List.map_cons, List.reverse_cons]
      rfl
    simp only [List.map_cons, intercalate_cons_eq, List.flatMap_map, List.singleton_append,
      List.append_assoc]
    -- As in a list, all fields but the first stand behind a comma.
    rw [foldlM_field first, foldlM_fields behind, foldlM_cons_of_step closed]
    rfl

/-- The tokens of a legible value are taken as the value. -/
theorem taken_of_legible {v : Value} (legible : v.Legible) : Taken v := by
  -- A simple value is one token, and lists and records are taken through what they hold.
  induction legible with
  | null => exact fun _ _ => rfl
  | flag value => exact fun _ _ => rfl
  | number numeral =>
    intro canClose stack
    simp [tokensOf, step, String.ofList_toList]
  | text content =>
    intro canClose stack
    simp [tokensOf, step, stringValue, String.ofList_toList]
  | list each ih => exact taken_list ih
  | record each ih => exact taken_record ih

/-- A legible document is what its text is read as. -/
theorem parse?_render {v : Value} (legible : v.Legible) : parse? (render v) = some v := by
  have split : lex [] .start (write 0 v) = some (tokensOf v).reverse := by
    -- Nothing stands in front of the whole text, nor behind it, which ends a value.
    have whole := splits_write legible 0 [] [] endsValue_nil
    rw [List.append_nil, List.append_nil] at whole
    rw [whole]
    rfl
  have read : ofTokens? (tokensOf v) = some v := by
    unfold ofTokens?
    rw [taken_of_legible legible]
    rfl
  unfold parse? render tokens?
  rw [String.toList_ofList, split, Option.map_some, List.reverse_reverse, Option.bind_some, read]

end Json

end GraphLoad
