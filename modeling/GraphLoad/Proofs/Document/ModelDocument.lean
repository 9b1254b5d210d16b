import GraphLoad.Document.ModelDocument
import GraphLoad.Document.TextFormat
import GraphLoad.Proofs.Json.RoundTrip

/-! Models survive being written as documents and read back, as trees and as JSON texts. -/

namespace GraphLoad

open Format

section Fields

variable {β : Type} (read : Value → Option β)

/-- A required field that is there is read. -/
theorem required_some (value : Value) : required read (some value) = read value :=
  rfl

/-- A field with a default is read where it is there. -/
theorem optional_some (default : β) (value : Value) :
    optional read default (some value) = read value :=
  rfl

end Fields

/-- Items that are read back one by one are read back as a list. -/
theorem mapM_map_of_inverse {α β : Type} {read : α → Option β} {write : β → α}
    (inverse : ∀ x, read (write x) = some x) (xs : List β) :
    (xs.map write).mapM read = some xs := by
  have each : read ∘ write = fun x => (pure (id x) : Option β) := funext inverse
  rw [List.mapM_map, each, List.mapM_pure, List.map_id]
  rfl

/-- A list of documents is read back item by item. -/
theorem listOf?_map {β : Type} {read : Value → Option β} {document : β → Value}
    (inverse : ∀ x, read (document x) = some x) (xs : List β) :
    listOf? read (.list (xs.map document)) = some xs :=
  mapM_map_of_inverse inverse xs

/-- A text that may be missing is read back from a field that is left out where it is. -/
theorem optional_text_map (value : Option String) :
    optional optionalText? none (value.map Value.text) = some value := by
  cases value with
  | none => rfl
  | some content => rfl

/-- Every value type is read back from its canonical spelling. -/
theorem ValueType.ofName_name (type : ValueType) : ValueType.ofName type.name = type := by
  cases type <;> decide

/-- A property is read back from its document. -/
theorem Property.read?_document (p : Property) : Property.read? p.document = some p := by
  -- The alias is the one field that may be left out; all others stand at their places.
  have fields : record? propertyFields p.document = some
      [some (.text p.name), some (.text p.column), some (.text p.valueType.name),
        p.aliasColumn.map .text, some (.flag p.isUnique), some (.flag p.partOfKey)] := by
    unfold document
    cases p.aliasColumn with
    | none => rfl
    | some content => rfl
  simp only [Property.read?, fields, required_some, text?, optional_some, ValueType.read?, flag?,
    ValueType.ofName_name, optional_text_map, Option.bind_eq_bind, Option.bind_some,
    Option.pure_def]

/-- A node is read back from its document. -/
theorem Node.read?_document (n : Node) : Node.read? n.document = some n := by
  -- The fields are found first, with a gap where the file is left out, and then read one by one.
  have fields : fields? nodeFields n.document = some
      [some (.text n.label), some (.list (n.properties.map Property.document)),
        n.sourceName.map .text] := by
    unfold document
    cases n.sourceName with
    | none => rfl
    | some file => rfl
  have properties := listOf?_map Property.read?_document n.properties
  simp only [Node.read?, fields, required_some, text?, optional_some, properties,
    optional_text_map, Option.bind_eq_bind, Option.bind_some, Option.pure_def]

/-- A relationship is read back from its document. -/
theorem Relationship.read?_document (r : Relationship) :
    Relationship.read? r.document = some r := by
  -- The file is the one field that may be missing from the document.
  have fields : fields? relationshipFields r.document = some
      [some (.text r.type), some (.list (r.properties.map Property.document)),
        some (.text r.source), some (.text r.target), r.sourceName.map .text] := by
    unfold document
    cases r.sourceName with
    | none => rfl
    | some file => rfl
  have properties := listOf?_map Property.read?_document r.properties
  simp only [Relationship.read?, fields, required_some, text?, optional_some, properties,
    optional_text_map, Option.bind_eq_bind, Option.bind_some, Option.pure_def]

/-- A model is read back from its document. -/
theorem Model.read?_document (m : Model) : Model.read? m.document = some m := by
  -- Both lists are there even if they are empty.
  have fields : fields? modelFields m.document = some
      [some (.list (m.nodes.map Node.document)),
        some (.list (m.relationships.map Relationship.document))] := rfl
  have nodes := listOf?_map Node.read?_document m.nodes
  have relationships := listOf?_map Relationship.read?_document m.relationships
  simp only [Model.read?, fields, optional_some, nodes, relationships,
    Option.bind_eq_bind, Option.bind_some, Option.pure_def]

namespace Value

/-- The documents of a list are a legible list. -/
theorem legible_map {β : Type} {document : β → Value} (each : ∀ x, (document x).Legible)
    (xs : List β) : (list (xs.map document)).Legible := by
  -- Every item is the document of something.
  refine .list fun v member => ?_
  obtain ⟨x, _, rfl⟩ := List.mem_map.mp member
  exact each x

/-- A field of text is legible, or left out. -/
theorem legible_textField {name : String} {value : Option String} :
    ∀ field ∈ textField? name value, field.2.Legible := by
  cases value with
  | none => simp [textField?]
  | some content => simp [textField?, Legible.text]

end Value

/-- The document of a property is legible. -/
theorem Property.legible_document (p : Property) : p.document.Legible := by
  refine .record ?_
  simp only [List.forall_mem_append, List.forall_mem_cons, List.not_mem_nil, false_implies,
    implies_true, and_true]
  exact ⟨⟨⟨.text _, .text _, .text _⟩, Value.legible_textField⟩, .flag _, .flag _⟩

/-- The document of a node is legible. -/
theorem Node.legible_document (n : Node) : n.document.Legible := by
  refine .record ?_
  simp only [List.forall_mem_append, List.forall_mem_cons, List.not_mem_nil, false_implies,
    implies_true, and_true]
  exact ⟨⟨.text _, Value.legible_map Property.legible_document _⟩, Value.legible_textField⟩

/-- The document of a relationship is legible. -/
theorem Relationship.legible_document (r : Relationship) : r.document.Legible := by
  -- Four fields are always there, and the file is a text where it is.
  refine .record ?_
  simp only [List.forall_mem_append, List.forall_mem_cons, List.not_mem_nil, false_implies,
    implies_true, and_true]
  exact ⟨⟨.text _, Value.legible_map Property.legible_document _, .text _, .text _⟩,
    Value.legible_textField⟩

/-- The document of a model is legible. -/
theorem Model.legible_document (m : Model) : m.document.Legible := by
  refine .record ?_
  simp only [List.forall_mem_cons, List.not_mem_nil, false_implies, implies_true, and_true]
  exact ⟨Value.legible_map Node.legible_document _,
    Value.legible_map Relationship.legible_document _⟩

/-- Every model is read back from the JSON text it is written as. -/
theorem Model.read?_render_json (m : Model) :
    TextFormat.read? Model.read? (TextFormat.render .json m.document) .json = some m := by
  -- The text gives back the document, and the document the model.
  have parsed : Json.parse? (Json.render m.document) = some m.document :=
    Json.parse?_render m.legible_document
  change (Json.parse? (Json.render m.document)).bind Model.read? = some m
  rw [parsed, Option.bind_some, m.read?_document]

end GraphLoad
