import GraphLoad.Document.Format
import GraphLoad.Schema.Fault

/-! The document form of faults: one named case for each rule that can be broken. -/

namespace GraphLoad

open Format

variable {α : Type} {m : Type → Type} [Format α m] [Monad m] [MonadExceptOf Unit m]

/-- Reads the name of an element. -/
def ElementRef.read? (document : α) : m ElementRef := do
  match ← taggedCase? document with
  | ("Node", content) => return .node (← text? content)
  | ("Relationship", content) => return .relationship (← text? content)
  | _ => throw ()

/-- Reads an end of a relationship. -/
def Endpoint.read? (document : α) : m Endpoint := do
  match ← case? document with
  | "Source" => return .source
  | "Target" => return .target
  | _ => throw ()

/-- Reads a fault. -/
def Fault.read? (document : α) : m Fault := do
  let (name, content) ← taggedCase? document
  match name with
  | "MissingColumn" =>
    match ← fields? ["element", "property", "column"] content with
    | [element, property, column] =>
      return .missingColumn (← required ElementRef.read? element) (← required text? property)
        (← required text? column)
    | _ => throw ()
  | "MissingEndpointColumn" =>
    match ← fields? ["rel_type", "role", "label", "property", "column", "source_name"] content with
    | [type, endpoint, label, property, column, file] =>
      return .missingEndpointColumn (← required text? type) (← required Endpoint.read? endpoint)
        (← required text? label) (← required text? property) (← required text? column)
        (← required text? file)
    | _ => throw ()
  | "UnknownSourceName" =>
    match ← fields? ["element", "source_name", "available"] content with
    | [element, file, available] =>
      return .unknownSource (← required ElementRef.read? element) (← required text? file)
        (← required (listOf? text?) available)
    | _ => throw ()
  | "SingleKeyProperty" =>
    match ← fields? ["element", "property"] content with
    | [element, property] =>
      return .singleKeyProperty (← required ElementRef.read? element) (← required text? property)
    | _ => throw ()
  | "DuplicatePropertyName" =>
    match ← fields? ["element", "property"] content with
    | [element, property] =>
      return .duplicateProperty (← required ElementRef.read? element) (← required text? property)
    | _ => throw ()
  | "DuplicateNodeLabel" =>
    match ← fields? ["label"] content with
    | [label] => return .duplicateLabel (← required text? label)
    | _ => throw ()
  | "NoIdentifyingProperty" =>
    match ← fields? ["label"] content with
    | [label] => return .noIdentifyingProperty (← required text? label)
    | _ => throw ()
  | "DuplicateRelationship" =>
    match ← fields? ["rel_type", "source", "target"] content with
    | [type, source, target] =>
      return .duplicateRelationship (← required text? type) (← required text? source)
        (← required text? target)
    | _ => throw ()
  | "UnknownEndpoint" =>
    match ← fields? ["rel_type", "role", "label"] content with
    | [type, endpoint, label] =>
      return .unknownEndpoint (← required text? type) (← required Endpoint.read? endpoint)
        (← required text? label)
    | _ => throw ()
  | "AmbiguousRelationshipSource" =>
    match ← fields? ["rel_type", "source_file", "target_file"] content with
    | [type, sourceFile, targetFile] =>
      return .ambiguousSource (← required text? type) (← required text? sourceFile)
        (← required text? targetFile)
    | _ => throw ()
  | _ => throw ()

/-- The document of an element's name. -/
def ElementRef.document (e : ElementRef) : Value :=
  .record [(e.kindTitle, .text e.name)]

/-- The document of an end of a relationship. -/
def Endpoint.document : Endpoint → Value
  | source => .text "Source"
  | target => .text "Target"

/-- The name of a fault's case. -/
def Fault.caseName : Fault → String
  | missingColumn .. => "MissingColumn"
  | missingEndpointColumn .. => "MissingEndpointColumn"
  | unknownSource .. => "UnknownSourceName"
  | singleKeyProperty .. => "SingleKeyProperty"
  | duplicateProperty .. => "DuplicatePropertyName"
  | duplicateLabel _ => "DuplicateNodeLabel"
  | noIdentifyingProperty _ => "NoIdentifyingProperty"
  | duplicateRelationship .. => "DuplicateRelationship"
  | unknownEndpoint .. => "UnknownEndpoint"
  | ambiguousSource .. => "AmbiguousRelationshipSource"

/-- The content of a fault's case. -/
def Fault.content : Fault → List (String × Value)
  | missingColumn element property column =>
    [("element", element.document), ("property", .text property), ("column", .text column)]
  | missingEndpointColumn type endpoint label property column file =>
    [("rel_type", .text type), ("role", endpoint.document), ("label", .text label),
      ("property", .text property), ("column", .text column), ("source_name", .text file)]
  | unknownSource element file available =>
    [("element", element.document), ("source_name", .text file),
      ("available", .list (available.map .text))]
  | singleKeyProperty element property | duplicateProperty element property =>
    [("element", element.document), ("property", .text property)]
  | duplicateLabel label | noIdentifyingProperty label => [("label", .text label)]
  | duplicateRelationship type source target =>
    [("rel_type", .text type), ("source", .text source), ("target", .text target)]
  | unknownEndpoint type endpoint label =>
    [("rel_type", .text type), ("role", endpoint.document), ("label", .text label)]
  | ambiguousSource type sourceFile targetFile =>
    [("rel_type", .text type), ("source_file", .text sourceFile),
      ("target_file", .text targetFile)]

/-- The document of a fault. -/
def Fault.document (f : Fault) : Value :=
  .record [(f.caseName, .record f.content)]

end GraphLoad
