import GraphLoad.Schema.RowFile

/-! The rules a model can break, each with the sentence that reports it. -/

namespace GraphLoad

/-- A broken rule and the elements it concerns. -/
inductive Fault where
  /-- A property is read from a column its source file does not have. -/
  | missingColumn (element : ElementRef) (property column : String)
  /-- The rows of a relationship lack a column one of its nodes is found by. -/
  | missingEndpointColumn (type : String) (endpoint : Endpoint)
      (label property column file : String)
  /-- A declared source file is not known. -/
  | unknownSource (element : ElementRef) (file : String) (available : List String)
  /-- Exactly one property is a member of the composite key. -/
  | singleKeyProperty (element : ElementRef) (property : String)
  /-- Two properties of one element share a name. -/
  | duplicateProperty (element : ElementRef) (property : String)
  /-- Two nodes share a label. -/
  | duplicateLabel (label : String)
  /-- No property of a node tells two of its instances apart. -/
  | noIdentifyingProperty (label : String)
  /-- Two relationships share type, source and target. -/
  | duplicateRelationship (type source target : String)
  /-- A relationship ends at a label no node has. -/
  | unknownEndpoint (type : String) (endpoint : Endpoint) (label : String)
  /-- A relationship declares no file and its two nodes come from different ones. -/
  | ambiguousSource (type sourceFile targetFile : String)
deriving DecidableEq, Repr

namespace Fault

/-- The element the rule was broken by. -/
def element : Fault → ElementRef
  | missingColumn element .. | unknownSource element .. => element
  | singleKeyProperty element _ | duplicateProperty element _ => element
  | duplicateLabel label | noIdentifyingProperty label => .node label
  | duplicateRelationship type .. | unknownEndpoint type .. => .relationship type
  | missingEndpointColumn type .. | ambiguousSource type .. => .relationship type

/-- Whether no statement can be written for a model with this fault, whatever its source files. -/
def isFatal : Fault → Bool
  | singleKeyProperty .. | unknownEndpoint .. | duplicateLabel _ | noIdentifyingProperty _ => true
  | _ => false

/-- Whether the fault lies in what the source files hold. -/
def concernsColumns : Fault → Bool
  | missingColumn .. | missingEndpointColumn .. | unknownSource .. => true
  | _ => false

/-- Whether the fault stops a model from being compiled. -/
def isBlocking (d : Fault) : Bool :=
  d.isFatal || d.concernsColumns

/-- The sentence that reports the fault. -/
def message : Fault → String
  | missingColumn element property column =>
    "The " ++ element.text ++ " has the property " ++ property ++ " mapped to csv column " ++ column
      ++ " which does not exist. " ++ property ++ " should be edited or removed from "
      ++ element.text ++ "."
  | missingEndpointColumn type endpoint label property column file =>
    "The relationship " ++ type ++ " matches its " ++ endpoint.name ++ " node " ++ label
      ++ " on the property " ++ property ++ " read from csv column " ++ column
      ++ ", which does not exist in " ++ file ++ ". Add the column to " ++ file
      ++ " or set an alias for " ++ property ++ "."
  | unknownSource element file available =>
    element.kindTitle ++ " " ++ element.name ++ " has source_name " ++ file
      ++ " which is not in the provided file list: ["
      ++ ", ".intercalate (available.map fun name => "'" ++ name ++ "'") ++ "]."
  | singleKeyProperty element property =>
    "The " ++ element.text ++ " has a " ++ element.kind ++ " key on only one property " ++ property
      ++ ". " ++ element.kindTitle ++ " keys must exist on two or more properties."
  | duplicateProperty element property =>
    "The " ++ element.text ++ " declares the property " ++ property ++ " more than once."
  | duplicateLabel label =>
    "The node label " ++ label ++ " is declared more than once. Node labels must be unique."
  | noIdentifyingProperty label =>
    "The node " ++ label ++ " has no unique or key property to merge on."
  | duplicateRelationship type source target =>
    "The relationship (" ++ source ++ ")-[:" ++ type ++ "]->(" ++ target
      ++ ") is declared more than once."
  | unknownEndpoint type endpoint label =>
    "The relationship " ++ type ++ " has " ++ endpoint.name ++ " node " ++ label
      ++ " which does not exist in the data model."
  | ambiguousSource type sourceFile targetFile =>
    "The relationship " ++ type ++ " declares no source_name but its source node is read from "
      ++ sourceFile ++ " and its target node from " ++ targetFile
      ++ ". Declare the file holding the relationship rows."

/-- The sentences of a list of faults, one a line. -/
def report (ds : List Fault) : String :=
  "\n".intercalate (ds.map fun d => "  - " ++ d.message)

end Fault

end GraphLoad
