import GraphLoad.Yaml.Token

/-! The nodes of a YAML document, in which some stand for others. -/

namespace GraphLoad.Yaml

/-- What stands in front of a node. -/
structure Head where
  /-- The number of the node among all that have an anchor. -/
  anchor : Option Nat := none
  /-- The tag in full. -/
  tag : Option String := none
deriving DecidableEq, Repr

/-- A node of a document. -/
inductive Node where
  /-- No node at all, as in a text without a document. -/
  | absent
  /-- A scalar. -/
  | scalar (head : Head) (form : Form) (text : String)
  /-- Items in order. -/
  | list (head : Head) (items : List Node)
  /-- Keys with values in order. -/
  | map (head : Head) (entries : List (Node × Node))
  /-- Another node, under the name its anchor had at this place. -/
  | reference (name : Nat)
deriving Repr, Inhabited

namespace Node

/-- What stands in front of the node. -/
def head : Node → Head
  | scalar head .. | list head _ | map head _ => head
  | absent | reference _ => {}

/-- The marks it takes to write the node apart from its parts: a list or mapping has a start and an
end. -/
def marks : Node → Nat
  | list .. | map .. => 2
  | absent | scalar .. | reference _ => 1

/-- The scalar of a place where nothing is written. -/
def empty (head : Head) : Node :=
  scalar head .plain ""

end Node

/-- The anchors of a document read so far.

The number of an anchor is the count of the names known when it is set. So an anchor that is set
anew gives its number to the next new name, and the node set last under a number is meant by it
everywhere. -/
structure Anchors where
  /-- The number each name has now. -/
  numbers : List (List Char × Nat) := []
  /-- The nodes set under each number, latest first, counted in the order they start. -/
  targets : List (Nat × Nat) := []
  /-- The nodes with an anchor that are complete. -/
  nodes : List (Nat × Node) := []
deriving Repr

namespace Anchors

/-- Sets an anchor for the node that starts next, and counts that node. -/
def set (a : Anchors) (name : List Char) : Nat × Anchors :=
  let start := a.targets.length
  let number := a.numbers.length
  (start, { a with
    numbers := (name, number) :: a.numbers.filter (·.1 != name)
    targets := (number, start) :: a.targets })

/-- Adds a node that is complete. -/
def complete (a : Anchors) (n : Node) : Anchors :=
  match n.head.anchor with
  | some start => { a with nodes := (start, n) :: a.nodes }
  | none => a

/-- The node meant by a number. -/
def node? (a : Anchors) (number : Nat) : Option Node := do
  a.nodes.lookup (← a.targets.lookup number)

end Anchors

end GraphLoad.Yaml
