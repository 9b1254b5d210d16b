import GraphLoad.Yaml.Layout
import GraphLoad.Yaml.Node

/-! Reading YAML: tokens are taken one after the other, and open lists and mappings wait on a stack.

Much may be left out in YAML, so a token may first complete what has no token of its own: an empty
node, a list that is not indented, or a pair without braces. -/

namespace GraphLoad.Yaml

/-- How a list or mapping is set off from what surrounds it. -/
inductive Bounds where
  /-- By indentation. -/
  | indented
  /-- By nothing, as a list at the indentation of its key, or a pair within a list. -/
  | bare
  /-- By brackets or braces. -/
  | bracketed
deriving DecidableEq, Repr

/-- The part of a mapping that is read next. -/
inductive Slot where
  /-- A key. -/
  | key
  /-- A key without its mark, which has no value. -/
  | loneKey
  /-- The value of a key. -/
  | value (key : Node)
deriving Repr

/-- A list or mapping that is still open, with its parts so far, latest first. -/
inductive Frame where
  | list (bounds : Bounds) (head : Head) (items : List Node)
  | map (bounds : Bounds) (head : Head) (entries : List (Node × Node)) (slot : Slot)
deriving Repr

/-- What may come next in the innermost open list or mapping. -/
inductive Phase where
  /-- A node, which may be left out. -/
  | slot
  /-- What belongs to a node after an anchor or a tag. -/
  | node (head : Head)
  /-- A node or the end, after an opening bracket or a comma. -/
  | ready
  /-- A value, as a key is complete. -/
  | waiting
  /-- The next part or the end. -/
  | between
  /-- Nothing, as the document is complete. -/
  | done (root : Node)
deriving Repr

/-- A document of which some tokens have been read. -/
structure State where
  /-- What may come next. -/
  phase : Phase := .slot
  /-- What is open, innermost first. -/
  stack : List Frame := []
  /-- The anchors so far. -/
  anchors : Anchors := {}
  /-- The marks of the nodes so far. -/
  marks : Nat := 0
deriving Repr

namespace State

/-- Hands a complete node to what is open around it. -/
def deliver (s : State) (n : Node) : State :=
  let anchors := s.anchors.complete n
  let marks := s.marks + n.marks
  match s.stack with
  | [] => ⟨.done n, [], anchors, marks⟩
  | .list bounds head items :: rest =>
    ⟨.between, .list bounds head (n :: items) :: rest, anchors, marks⟩
  | .map bounds head entries .key :: rest =>
    ⟨.waiting, .map bounds head entries (.value n) :: rest, anchors, marks⟩
  | .map bounds head entries .loneKey :: rest =>
    let value := Node.empty {}
    ⟨.between, .map bounds head ((n, value) :: entries) .key :: rest, anchors, marks + value.marks⟩
  | .map bounds head entries (.value key) :: rest =>
    ⟨.between, .map bounds head ((key, n) :: entries) .key :: rest, anchors, marks⟩

/-- Opens a list or mapping. -/
def openFrame (s : State) (frame : Frame) (phase : Phase) : State :=
  { s with stack := frame :: s.stack, phase }

/-- Closes the innermost list or mapping. -/
def closeFrame (s : State) : State :=
  match s.stack with
  | .list _ head items :: rest => { s with stack := rest }.deliver (.list head items.reverse)
  | .map _ head entries _ :: rest => { s with stack := rest }.deliver (.map head entries.reverse)
  | [] => s

/-- Whether a node may be set off by indentation here. -/
def allowsIndented (s : State) : Bool :=
  match s.stack with
  | [] | .list .indented .. :: _ | .list .bare .. :: _ | .map .indented .. :: _ => true
  | _ => false

/-- Whether a list may start here without being indented. -/
def allowsBareList (s : State) : Bool :=
  match s.stack with
  | .map .indented .. :: _ => true
  | _ => false

/-- Whether a token tells that the next node is left out. -/
def isLeftOut (s : State) (t : Token) : Bool :=
  match s.stack with
  | .list .indented .. :: _ => [.entry, .blockEnd].contains t
  | .list .bare .. :: _ => [.entry, .key, .value, .blockEnd].contains t
  | .map .indented .. :: _ => [.key, .value, .blockEnd].contains t
  | .map .bare _ _ (.value _) :: _ => [.comma, .listClose].contains t
  | .map .bracketed _ _ .key :: _ => [.value, .comma, .mapClose].contains t
  | .map .bracketed _ _ (.value _) :: _ => [.comma, .mapClose].contains t
  | _ => false

/-- Whether a token belongs to a node whose head has been read up to `head`. -/
def continues (s : State) (head : Head) : Token → Bool
  | .scalar .. | .listOpen | .mapOpen => true
  | .listStart | .mapStart => s.allowsIndented
  | .entry => s.allowsBareList
  | .anchor _ => head.anchor.isNone
  | .tag .. => head.tag.isNone
  | _ => false

/-- Completes a node that is left out. -/
def fillNode (s : State) (t : Token) : State :=
  match s.phase with
  | .slot => if s.isLeftOut t then s.deliver (.empty {}) else s
  | .node head => if s.continues head t then s else s.deliver (.empty head)
  | _ => s

/-- Closes a list that is not indented, if no further item starts. -/
def closeBareList (s : State) (t : Token) : State :=
  match s.phase, s.stack with
  | .between, .list .bare .. :: _ => if t = .entry then s else s.closeFrame
  | _, _ => s

/-- Completes a key without a value. -/
def fillValue (s : State) (t : Token) : State :=
  match s.phase with
  | .waiting => if t = .value then s else s.deliver (.empty {})
  | _ => s

/-- Closes a pair without braces once it has a value. -/
def closePair (s : State) : State :=
  match s.phase, s.stack with
  | .between, .map .bare .. :: _ => s.closeFrame
  | _, _ => s

/-- Completes all that a token leaves out. -/
def settle (s : State) (t : Token) : State :=
  (((s.fillNode t).closeBareList t).fillValue t).closePair

/-- A tag in full; handles stand for what a directive says, or for what they always do. -/
def fullTag? (handles : List (List Char × List UInt8)) (handle : List Char) (suffix : List UInt8) :
    Option String := do
  let start ← if handle.isEmpty then some [] else
    (handles ++ [(['!'], wordBytes ['!']), (['!', '!'], "tag:yaml.org,2002:".toUTF8.toList)]).lookup
      handle
  -- Bytes that are no text make a tag that means nothing.
  return (String.fromUTF8? ⟨(start ++ suffix).toArray⟩).getD ""

/-- Takes the first token of a node, or the next of its head. -/
def takeNode (handles : List (List Char × List UInt8)) (s : State) (head : Head) :
    Token → Option State
  | .reference name =>
    if head = {} then return s.deliver (.reference (← s.anchors.numbers.lookup name)) else none
  | .anchor name =>
    if head.anchor.isSome then none
    else
      let (start, anchors) := s.anchors.set name
      some { s with anchors, phase := .node { head with anchor := some start } }
  | .tag handle suffix => do
    if head.tag.isSome then none
    let tag ← fullTag? handles handle suffix
    return { s with phase := .node { head with tag := some tag } }
  | .scalar form text => some (s.deliver (.scalar head form (String.ofList text)))
  | .listOpen => some (s.openFrame (.list .bracketed head []) .ready)
  | .mapOpen => some (s.openFrame (.map .bracketed head [] .key) .ready)
  | .listStart =>
    if s.allowsIndented then some (s.openFrame (.list .indented head []) .between) else none
  | .mapStart =>
    if s.allowsIndented then some (s.openFrame (.map .indented head [] .key) .between) else none
  | .entry =>
    if s.allowsBareList then some (s.openFrame (.list .bare head []) .slot) else none
  | _ => none

/-- Takes a token that completes nothing by being there. -/
def take (handles : List (List Char × List UInt8)) (s : State) (t : Token) : Option State :=
  match s.phase, s.stack, t with
  | .between, .list .indented .. :: _, .entry | .between, .list .bare .. :: _, .entry
  | .between, .map .indented .. :: _, .key => some { s with phase := .slot }
  | .between, .list .indented .. :: _, .blockEnd
  | .between, .map .indented .. :: _, .blockEnd => some s.closeFrame
  | .between, .list .bracketed .. :: _, .comma
  | .between, .map .bracketed .. :: _, .comma => some { s with phase := .ready }
  | .between, .list .bracketed .. :: _, .listClose | .ready, .list .bracketed .. :: _, .listClose
  | .between, .map .bracketed .. :: _, .mapClose
  | .ready, .map .bracketed .. :: _, .mapClose => some s.closeFrame
  | .waiting, _, .value => some { s with phase := .slot }
  | .ready, .list .bracketed .. :: _, .key => some (s.openFrame (.map .bare {} [] .key) .slot)
  | .ready, .map .bracketed .. :: _, .key => some { s with phase := .slot }
  | .ready, .map bounds head entries _ :: rest, t =>
    takeNode handles { s with stack := .map bounds head entries .loneKey :: rest } {} t
  -- In a pair without braces, what shows that the key is left out counts for nothing else.
  | .slot, .map .bare _ _ .key :: _, .value | .slot, .map .bare _ _ .key :: _, .comma
  | .slot, .map .bare _ _ .key :: _, .listClose => some (s.deliver (.empty {}))
  | .ready, _, t | .slot, _, t => takeNode handles s {} t
  | .node head, _, t => takeNode handles s head t
  | _, _, _ => none

/-- Takes one more token. -/
def step (handles : List (List Char × List UInt8)) (s : State) (t : Token) : Option State :=
  take handles (s.settle t) t

/-- Completes a node that is left out at the end of a document. -/
def finish (s : State) : State :=
  match s.phase with
  | .node head => s.deliver (.empty head)
  | _ => s

end State

/-- A document: its root, and the nodes that others stand for. -/
structure Document where
  /-- The outermost node. -/
  root : Node
  /-- The anchors of the document. -/
  anchors : Anchors := {}
  /-- The marks of its nodes. -/
  marks : Nat := 0
deriving Repr

namespace Document

/-- The number of references that a reading may follow. It grows with the document, but a short one
cannot stand for a huge one. -/
def allowance (d : Document) : Nat :=
  100 * d.marks

/-- The handles that directives set. A second version, one that is not known, and a handle that is
set twice are refused. -/
def handles? (hasVersion : Bool) (handles : List (List Char × List UInt8)) :
    List Token → Option (List (List Char × List UInt8))
  | [] => some handles
  | .version major minor :: rest =>
    if hasVersion || major != 1 || (minor != 1 && minor != 2) then none
    else handles? true handles rest
  | .handle name start :: rest =>
    if (handles.lookup name).isSome then none
    else handles? hasVersion ((name, start) :: handles) rest
  | _ => none

/-- Whether a token is a directive. -/
def isDirective : Token → Bool
  | .version .. | .handle .. => true
  | _ => false

/-- Whether a token stands between documents. -/
def isOuter (t : Token) : Bool :=
  isDirective t || t = .documentStart || t = .documentEnd

/-- The document that the tokens of its content write. -/
def ofContent? (handles : List (List Char × List UInt8)) (content : List Token) :
    Option Document := do
  let final := (← content.foldlM (State.step handles) {}).finish
  match final.phase with
  | .done root => return ⟨root, final.anchors, final.marks⟩
  | _ => none

/-- The one document that tokens write. Without any tokens there is no node in it. -/
def ofTokens? (tokens : List Token) : Option Document := do
  let rest := tokens.dropWhile isDirective
  let handles ← handles? false [] (tokens.takeWhile isDirective)
  match rest with
  | .documentStart :: rest =>
    let content := rest.takeWhile (!isOuter ·)
    if !(rest.drop content.length).all (· = .documentEnd) then none
    if content.isEmpty then return { root := .empty {} }
    ofContent? handles content
  | [] => if tokens.isEmpty then return { root := .absent } else none
  | _ =>
    if rest.length < tokens.length then none
    let content := rest.takeWhile (!isOuter ·)
    if !(rest.drop content.length).all (· = .documentEnd) then none
    ofContent? handles content

end Document

/-- The document that a text writes, or nothing where the text is not YAML or has several
documents. -/
def document? (text : String) : Option Document :=
  (tokens? text.toList).bind Document.ofTokens?

end GraphLoad.Yaml
