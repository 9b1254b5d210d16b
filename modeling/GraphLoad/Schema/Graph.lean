import GraphLoad.Schema.Column

/-! Graph models: nodes, relationships, and the views on what they have in common. -/

namespace GraphLoad

/-- Names an element of a model: a node by its label, a relationship by its type. -/
inductive ElementRef where
  | node (label : String)
  | relationship (type : String)
deriving DecidableEq, Repr

namespace ElementRef

/-- The label or the relationship type. -/
def name : ElementRef → String
  | node label => label
  | relationship type => type

/-- The kind of element as a word inside a sentence. -/
def kind : ElementRef → String
  | node _ => "node"
  | relationship _ => "relationship"

/-- The kind of element as a word that starts a sentence. -/
def kindTitle : ElementRef → String
  | node _ => "Node"
  | relationship _ => "Relationship"

/-- Kind and name, as in `node Person`. -/
def text (element : ElementRef) : String :=
  element.kind ++ " " ++ element.name

end ElementRef

/-- The source file of elements that declare none, when nothing else is configured. -/
def implicitSource : String := "file"

/-- A kind of node: a label, its properties, and the file its rows come from. -/
structure Node where
  /-- The label that identifies the kind. -/
  label : String
  /-- The properties in declared order. -/
  properties : List Property := []
  /-- The declared source file, if any. -/
  sourceName : Option String := none
deriving DecidableEq, Repr

/-- A kind of relationship between two kinds of node. -/
structure Relationship where
  /-- The relationship type. -/
  type : String
  /-- The properties in declared order. -/
  properties : List Property := []
  /-- The label of the node the relationship starts at. -/
  source : String
  /-- The label of the node the relationship ends at. -/
  target : String
  /-- The declared source file of the relationship's rows, if any. -/
  sourceName : Option String := none
deriving DecidableEq, Repr

/-- What nodes and relationships have in common: a name, properties, and a source file. -/
structure Element where
  /-- Which element of the model this is. -/
  ref : ElementRef
  /-- The properties in declared order. -/
  properties : List Property
  /-- The declared source file, if any. -/
  sourceName : Option String
deriving DecidableEq, Repr

/-- The node as an element. -/
def Node.element (n : Node) : Element :=
  ⟨.node n.label, n.properties, n.sourceName⟩

/-- The relationship as an element. -/
def Relationship.element (r : Relationship) : Element :=
  ⟨.relationship r.type, r.properties, r.sourceName⟩

/-- Whether the relationship joins nodes of one label. -/
def Relationship.isSelfRelationship (r : Relationship) : Bool :=
  r.source == r.target

/-- The properties that tell two nodes of this kind apart. -/
def Node.identifying (n : Node) : List Property :=
  n.properties.filter Property.isIdentifying

/-- The file the node's rows come from when undeclared files are read from `default`. -/
def Node.fileOr (n : Node) (default : String) : String :=
  n.sourceName.getD default

namespace Element

/-- The names of the properties in declared order. -/
def propertyNames (e : Element) : List String :=
  e.properties.map Property.name

/-- The properties no two elements share a value of. -/
def unique (e : Element) : List Property :=
  e.properties.filter Property.isUnique

/-- The properties whose values may repeat. -/
def nonunique (e : Element) : List Property :=
  e.properties.filter (!·.isUnique)

/-- The members of the composite key. -/
def key (e : Element) : List Property :=
  e.properties.filter Property.partOfKey

/-- The properties an element is merged and matched on. -/
def identifying (e : Element) : List Property :=
  e.properties.filter Property.isIdentifying

/-- The properties set once an element is merged. -/
def descriptive (e : Element) : List Property :=
  e.properties.filter (!·.isIdentifying)

/-- The file the element's rows come from when undeclared files are read from `default`. -/
def fileOr (e : Element) (default : String) : String :=
  e.sourceName.getD default

end Element

/-- The graph to be loaded. -/
structure Model where
  /-- The kinds of node in declared order. -/
  nodes : List Node := []
  /-- The kinds of relationship in declared order. -/
  relationships : List Relationship := []
deriving DecidableEq, Repr

namespace Model

/-- The node labels in declared order. -/
def nodeLabels (m : Model) : List String :=
  m.nodes.map Node.label

/-- The relationship types in declared order. -/
def relationshipTypes (m : Model) : List String :=
  m.relationships.map Relationship.type

/-- All elements, nodes before relationships. -/
def elements (m : Model) : List Element :=
  m.nodes.map Node.element ++ m.relationships.map Relationship.element

/-- The first node with a label. -/
def node? (m : Model) (label : String) : Option Node :=
  m.nodes.find? (·.label == label)

/-- Whether any element declares a source file of its own. -/
def isMultiFile (m : Model) : Bool :=
  m.elements.any (·.sourceName.isSome)

/-- The files of the elements, each once, in the order of their first element. -/
def sourceNames (m : Model) : List String :=
  (m.elements.map (·.fileOr implicitSource)).eraseDups

end Model

end GraphLoad
