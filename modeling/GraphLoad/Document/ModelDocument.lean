import GraphLoad.Document.Format
import GraphLoad.Schema.Graph
import GraphLoad.Schema.SourceFiles

/-! The document form of graph models: how each part is written, and how it is read. -/

namespace GraphLoad

open Format

variable {α : Type} {m : Type → Type} [Format α m] [Monad m] [MonadExceptOf Unit m]

/-- The spellings of a property's fields; its column has an older spelling as well. -/
def propertyFields : List (List String) :=
  [["name"], ["column_mapping", "csv_mapping"], ["type"], ["alias"], ["is_unique"],
    ["part_of_key"]]

/-- The fields of a node. -/
def nodeFields : List String := ["label", "properties", "source_name"]

/-- The fields of a relationship. -/
def relationshipFields : List String :=
  ["type", "properties", "source", "target", "source_name"]

/-- The fields of a model. -/
def modelFields : List String := ["nodes", "relationships"]

/-- Reads a value type; any text names one. -/
def ValueType.read? (document : α) : m ValueType := do
  return .ofName (← text? document)

/-- Reads a property. -/
def Property.read? (document : α) : m Property := do
  match ← record? propertyFields document with
  | [name, column, type, aliasColumn, isUnique, partOfKey] =>
    return {
      name := ← required text? name
      column := ← required text? column
      valueType := ← optional ValueType.read? .text type
      aliasColumn := ← optional optionalText? none aliasColumn
      isUnique := ← optional flag? false isUnique
      partOfKey := ← optional flag? false partOfKey }
  | _ => throw ()

/-- Reads a node. -/
def Node.read? (document : α) : m Node := do
  match ← fields? nodeFields document with
  | [label, properties, sourceName] =>
    return {
      label := ← required text? label
      properties := ← optional (listOf? Property.read?) [] properties
      sourceName := ← optional optionalText? none sourceName }
  | _ => throw ()

/-- Reads a relationship. -/
def Relationship.read? (document : α) : m Relationship := do
  match ← fields? relationshipFields document with
  | [type, properties, source, target, sourceName] =>
    return {
      type := ← required text? type
      properties := ← optional (listOf? Property.read?) [] properties
      source := ← required text? source
      target := ← required text? target
      sourceName := ← optional optionalText? none sourceName }
  | _ => throw ()

/-- Reads a model. -/
def Model.read? (document : α) : m Model := do
  match ← fields? modelFields document with
  | [nodes, relationships] =>
    return {
      nodes := ← optional (listOf? Node.read?) [] nodes
      relationships := ← optional (listOf? Relationship.read?) [] relationships }
  | _ => throw ()

/-- Reads known source files, where the last entry of a file counts. -/
def SourceFiles.read? (document : α) : m SourceFiles := do
  let entries ← entries? document
  let files ← entries.mapM fun (name, columns) => do return (name, ← listOf? text? columns)
  return .ofList files

/-- The document of a property. -/
def Property.document (p : Property) : Value :=
  .record <|
    [("name", .text p.name), ("column_mapping", .text p.column),
      ("type", .text p.valueType.name)]
    ++ Value.textField? "alias" p.aliasColumn
    ++ [("is_unique", .flag p.isUnique), ("part_of_key", .flag p.partOfKey)]

/-- The document of a node. -/
def Node.document (n : Node) : Value :=
  .record <|
    [("label", .text n.label), ("properties", .list (n.properties.map Property.document))]
    ++ Value.textField? "source_name" n.sourceName

/-- The document of a relationship. -/
def Relationship.document (r : Relationship) : Value :=
  .record <|
    [("type", .text r.type), ("properties", .list (r.properties.map Property.document)),
      ("source", .text r.source), ("target", .text r.target)]
    ++ Value.textField? "source_name" r.sourceName

/-- The document of a model. -/
def Model.document (m : Model) : Value :=
  .record
    [("nodes", .list (m.nodes.map Node.document)),
      ("relationships", .list (m.relationships.map Relationship.document))]

/-- The document of known source files. -/
def SourceFiles.document (files : SourceFiles) : Value :=
  .record (files.columns.entries.map fun (name, columns) => (name, .list (columns.map .text)))

end GraphLoad
