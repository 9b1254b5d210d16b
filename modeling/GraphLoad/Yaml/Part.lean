import GraphLoad.Document.Format
import GraphLoad.Yaml.Meaning
import GraphLoad.Yaml.Reader

/-! Reading typed data from YAML documents, leniently: every scalar is a text too, and nothing at
all is a list or a record without parts. -/

namespace GraphLoad.Yaml

/-- A part of a document. -/
structure Part where
  /-- The document. -/
  document : Document
  /-- The node of the part. -/
  node : Node
deriving Repr

/-- A reading that may still follow a number of references. -/
abbrev Following := StateT Nat Option

namespace Part

/-- The part that a part stands for, after following a reference. -/
def meant (p : Part) : Following Part := do
  match p.node with
  | .reference number =>
    let allowance ← get
    if allowance = 0 then failure
    set (allowance - 1)
    return { p with node := ← p.document.anchors.node? number }
  | _ => return p

/-- Reads the part that a part stands for. -/
def follow {β : Type} (read : Part → Option β) (p : Part) : Following β := do
  liftM (read (← p.meant))

/-- The tag of a standard type. -/
def standardTag (type : String) : String :=
  "tag:yaml.org,2002:" ++ type

/-- The part as a text. -/
def text? (p : Part) : Option String :=
  match p.node with
  | .scalar _ _ text => some text
  | _ => none

/-- The part as a text that may be missing. Quotes and tags make a text of a word for nothing. -/
def optionalText? (p : Part) : Option (Option String) :=
  match p.node with
  | .absent => some none
  | .scalar head .plain text =>
    if head.tag = some (standardTag "null") then
      if isNull text then some none else none
    else if head.tag = none ∧ (text = "" ∨ isNull text) then some none
    else some (some text)
  | .scalar _ _ text => some (some text)
  | _ => none

/-- The text of a scalar that may stand for a value of a standard type. -/
def wordOf? (p : Part) (type : String) : Option String :=
  match p.node with
  | .scalar _ .plain text => some text
  | .scalar head .literal text => if head.tag = some (standardTag type) then some text else none
  | _ => none

/-- The part as a list. -/
def list? (p : Part) : Option (List Part) :=
  match p.node with
  | .list _ items => some (items.map (⟨p.document, ·⟩))
  | .scalar _ .plain "" => some []
  | _ => none

/-- The part as keys with values. -/
def pairs? (p : Part) : Option (List (Part × Part)) :=
  match p.node with
  | .map _ entries => some (entries.map fun (key, v) => (⟨p.document, key⟩, ⟨p.document, v⟩))
  | .scalar _ .plain "" | .absent => some []
  | _ => none

/-- The part as names with values. -/
def entries? (p : Part) : Following (List (String × Part)) := do
  (← p.follow pairs?).mapM fun (key, value) => do return (← key.follow text?, value)

/-- The name that a tag of the document's own gives to the part. -/
def ownTag? (p : Part) : Option String :=
  match p.node.head.tag.map String.toList with
  | some ['!'] => some "!"
  | some ('!' :: name) => some (String.ofList name)
  | _ => none

/-- The part as the name of a case without content: a scalar, or a tag with nothing behind it. -/
def case? (p : Part) : Option String :=
  match p.ownTag?, p.node with
  | none, .scalar _ _ text => some text
  | some name, .scalar _ .plain text => if text = "" ∨ isNull text then some name else none
  | _, _ => none

end Part

instance : Format Part Following where
  text? := Part.follow Part.text?
  optionalText? := Part.follow Part.optionalText?
  flag? := Part.follow fun p => (p.wordOf? "bool").bind flag?
  count? := Part.follow fun p => (p.wordOf? "int").bind count?
  list? := Part.follow Part.list?
  entries? := Part.entries?
  record? spellings p := do
    let entries ← p.entries?
    spellings.mapM fun names => liftM (field? entries names)
  case? := Part.follow Part.case?
  taggedCase? := Part.follow fun p => p.ownTag?.map (·, p)

/-- The document that a text writes, as a whole. -/
def parse? (text : String) : Option Part :=
  (document? text).map fun document => ⟨document, document.root⟩

end GraphLoad.Yaml
