import GraphLoad.Proofs.Schema.Blocking
import GraphLoad.Proofs.Schema.Plan
import GraphLoad.Proofs.Schema.StructuralFaults

/-! Models recast element by element: new contents of properties and new declarations of files,
under the old names. The check then says the same, apart from what it says of open row files. -/

namespace GraphLoad

/-- A change of the elements of models that keeps all names, and which properties identify. -/
structure Recast where
  /-- What becomes of a property. -/
  property : Property → Property
  /-- The file a node declares afterwards, if any. -/
  nodeFile : Node → Option String
  /-- The file a relationship declares afterwards, if any. -/
  relationshipFile : Relationship → Option String
  /-- Properties keep their names. -/
  name : ∀ p, (property p).name = p.name
  /-- Unique properties stay unique, and no others become so. -/
  isUnique : ∀ p, (property p).isUnique = p.isUnique
  /-- Keys keep their members. -/
  partOfKey : ∀ p, (property p).partOfKey = p.partOfKey

namespace Recast

/-- What becomes of a node. -/
def node (v : Recast) (n : Node) : Node :=
  { n with properties := n.properties.map v.property, sourceName := v.nodeFile n }

/-- What becomes of a relationship. -/
def relationship (v : Recast) (r : Relationship) : Relationship :=
  { r with properties := r.properties.map v.property, sourceName := v.relationshipFile r }

/-- What becomes of an element that declares a given file afterwards. -/
def element (v : Recast) (e : Element) (file : Option String) : Element :=
  { e with properties := e.properties.map v.property, sourceName := file }

/-- A change of nothing but the files that elements declare. -/
def ofFiles (nodeFile : Node → Option String) (relationshipFile : Relationship → Option String) :
    Recast where
  property := id
  nodeFile
  relationshipFile
  name _ := rfl
  isUnique _ := rfl
  partOfKey _ := rfl

end Recast

/-- The model with all elements recast. -/
def Model.recast (m : Model) (v : Recast) : Model where
  nodes := m.nodes.map v.node
  relationships := m.relationships.map v.relationship

namespace Recast

variable (v : Recast) (n : Node) (r : Relationship) (e : Element) (file : Option String)

@[simp] theorem node_label : (v.node n).label = n.label :=
  rfl

@[simp] theorem relationship_type : (v.relationship r).type = r.type :=
  rfl

@[simp] theorem relationship_source : (v.relationship r).source = r.source :=
  rfl

@[simp] theorem relationship_target : (v.relationship r).target = r.target :=
  rfl

@[simp] theorem relationship_sourceName :
    (v.relationship r).sourceName = v.relationshipFile r :=
  rfl

@[simp] theorem relationship_label (end_ : Endpoint) :
    (v.relationship r).label end_ = r.label end_ := by
  cases end_ <;> rfl

@[simp] theorem node_element : (v.node n).element = v.element n.element (v.nodeFile n) :=
  rfl

@[simp] theorem relationship_element :
    (v.relationship r).element = v.element r.element (v.relationshipFile r) :=
  rfl

/-- A node whose declared file changes keeps all else. -/
theorem node_ofFiles {nodeFile : Node → Option String}
    {relationshipFile : Relationship → Option String} :
    (ofFiles nodeFile relationshipFile).node n = { n with sourceName := nodeFile n } := by
  simp [node, ofFiles]

/-- A relationship whose declared file changes keeps all else. -/
theorem relationship_ofFiles {nodeFile : Node → Option String}
    {relationshipFile : Relationship → Option String} :
    (ofFiles nodeFile relationshipFile).relationship r =
      { r with sourceName := relationshipFile r } := by
  simp [relationship, ofFiles]

/-- A choice of properties by what is kept of them chooses the same properties as before. -/
theorem filter_property {choice : Property → Bool}
    (kept : ∀ p, choice (v.property p) = choice p) (properties : List Property) :
    (properties.map v.property).filter choice = (properties.filter choice).map v.property := by
  have same : choice ∘ v.property = choice := funext kept
  rw [List.filter_map, same]

/-- Which properties identify is decided by what is kept of them. -/
theorem isIdentifying_property (p : Property) :
    (v.property p).isIdentifying = p.isIdentifying := by
  rw [Property.isIdentifying, Property.isIdentifying, v.isUnique, v.partOfKey]

/-- A node is identified by the properties it was identified by. -/
theorem node_identifying : (v.node n).identifying = n.identifying.map v.property :=
  v.filter_property v.isIdentifying_property n.properties

@[simp] theorem element_ref : (v.element e file).ref = e.ref :=
  rfl

/-- An element has the property names it had. -/
@[simp] theorem element_propertyNames :
    (v.element e file).propertyNames = e.propertyNames := by
  simp [element, Element.propertyNames, v.name]

/-- An element has the unique properties it had. -/
theorem element_unique : (v.element e file).unique = e.unique.map v.property :=
  v.filter_property v.isUnique e.properties

/-- A key has the members it had. -/
theorem element_key : (v.element e file).key = e.key.map v.property :=
  v.filter_property v.partOfKey e.properties

/-- An element is identified by the properties it was identified by. -/
theorem element_identifying :
    (v.element e file).identifying = e.identifying.map v.property :=
  v.filter_property v.isIdentifying_property e.properties

/-- An element is described by the properties it was described by. -/
theorem element_descriptive :
    (v.element e file).descriptive = e.descriptive.map v.property :=
  v.filter_property (fun p => congrArg not (v.isIdentifying_property p)) e.properties

/-- An element breaks the rules on names that it broke. -/
@[simp] theorem element_checkNames : (v.element e file).checkNames = e.checkNames := by
  simp only [Element.checkNames, element_propertyNames, element_ref]

/-- An element breaks the rules on keys that it broke. -/
@[simp] theorem element_checkKey : (v.element e file).checkKey = e.checkKey := by
  unfold Element.checkKey
  rw [v.element_key e file]
  -- Only the name of a member of the key is reported, and only if there is just one.
  match e.key with
  | [] => rfl
  | [only] => simp only [List.map_cons, List.map_nil, element_ref, v.name]
  | _ :: _ :: _ => rfl

/-- Without source files an element has the faults that it had. -/
theorem element_check_none : (v.element e file).check none = e.check none := by
  simp only [Element.check, element_checkNames, element_checkKey]

end Recast

/-- Whether the fault is that a model leaves open which file holds the rows of a relationship. -/
def Fault.isAmbiguity : Fault → Bool
  | .ambiguousSource .. => true
  | _ => false

/-- An open row file is reported but does not block. -/
theorem Fault.isBlocking_of_isAmbiguity (d : Fault) (open_ : d.isAmbiguity = true) :
    d.isBlocking = false := by
  cases d with
  | ambiguousSource => rfl
  | _ => cases open_

/-- No report on names or keys is of an open row file. -/
theorem Element.isAmbiguity_of_mem_check_none {e : Element} {d : Fault}
    (reported : d ∈ e.check none) : d.isAmbiguity = false := by
  rcases of_mem_check_none reported with ⟨name, rfl⟩ | ⟨name, rfl⟩ <;> rfl

/-- A change of reports that concerns open row files alone and gives no reason to refuse a
model. -/
structure OnlyAmbiguity (change : Fault → Option Fault) : Prop where
  /-- All other faults are reported as before. -/
  kept : ∀ d, d.isAmbiguity = false → change d = some d
  /-- What is reported instead of an open row file does not block. -/
  tolerated : ∀ d other, d.isAmbiguity = true → change d = some other → other.isBlocking = false

namespace OnlyAmbiguity

variable {change : Fault → Option Fault}

/-- Reporting everything as before changes nothing at all. -/
theorem unchanged : OnlyAmbiguity some where
  kept _ _ := rfl
  tolerated d other open_ same := by
    obtain rfl := Option.some.inj same
    exact d.isBlocking_of_isAmbiguity open_

/-- Reports none of which is of an open row file stay. -/
theorem filterMap_eq_self (only : OnlyAmbiguity change) {faults : List Fault}
    (plain : ∀ d ∈ faults, d.isAmbiguity = false) : faults.filterMap change = faults := by
  have same : ∀ d ∈ faults, change d = some d := fun d reported => only.kept d (plain d reported)
  rw [List.filterMap_congr same, List.filterMap_some]

/-- Reports of one kind stay, unless they are of open row files. -/
theorem filterMap_map (only : OnlyAmbiguity change) {α : Type} {items : List α} {fault : α → Fault}
    (plain : ∀ item, (fault item).isAmbiguity = false) :
    (items.map fault).filterMap change = items.map fault := by
  refine only.filterMap_eq_self fun d reported => ?_
  obtain ⟨item, _, rfl⟩ := List.mem_map.mp reported
  exact plain item

/-- The faults that block are the same before the change and after it. -/
theorem filter_isBlocking (only : OnlyAmbiguity change) (faults : List Fault) :
    (faults.filterMap change).filter Fault.isBlocking = faults.filter Fault.isBlocking := by
  induction faults with
  | nil => rfl
  | cons d rest ih =>
    cases open_ : d.isAmbiguity with
    | false =>
      rw [List.filterMap_cons_some (only.kept d open_), List.filter_cons, List.filter_cons, ih]
    | true =>
      -- A report of an open row file does not block, and neither does what comes in its place.
      have passed := d.isBlocking_of_isAmbiguity open_
      rw [List.filter_cons_of_neg (by simp [passed])]
      cases changed : change d with
      | none => rw [List.filterMap_cons_none changed, ih]
      | some other =>
        have tolerated := only.tolerated d other open_ changed
        rw [List.filterMap_cons_some changed, List.filter_cons_of_neg (by simp [tolerated]), ih]

end OnlyAmbiguity

namespace Model

variable (m : Model) (v : Recast)

@[simp] theorem nodes_recast : (m.recast v).nodes = m.nodes.map v.node :=
  rfl

@[simp] theorem relationships_recast :
    (m.recast v).relationships = m.relationships.map v.relationship :=
  rfl

/-- The labels are those there were. -/
@[simp] theorem nodeLabels_recast : (m.recast v).nodeLabels = m.nodeLabels := by
  simp [nodeLabels, recast, Function.comp_def]

/-- The elements are recast one by one. -/
theorem elements_recast : (m.recast v).elements =
    m.nodes.map (fun n => v.element n.element (v.nodeFile n)) ++
      m.relationships.map (fun r => v.element r.element (v.relationshipFile r)) := by
  simp only [elements, nodes_recast, relationships_recast, List.map_map, Function.comp_def,
    Recast.node_element, Recast.relationship_element]

/-- A label leads to the node it led to, recast. -/
@[simp] theorem node?_recast (label : String) :
    (m.recast v).node? label = (m.node? label).map v.node := by
  have same : (fun n : Node => n.label == label) ∘ v.node = fun n => n.label == label := rfl
  rw [node?, nodes_recast, List.find?_map, same, node?]

/-- The ends of a relationship lead to the nodes they led to, recast, or are missed alike. -/
theorem endpoints_recast (r : Relationship) :
    (m.recast v).endpoints (v.relationship r) =
      (m.endpoints r).map (Prod.map v.node v.node) := by
  have single : ∀ end_, (m.recast v).endpoint (v.relationship r) end_ =
      (m.endpoint r end_).map v.node := by
    intro end_
    rw [endpoint, endpoint, Recast.relationship_label, Recast.relationship_type, node?_recast]
    cases m.node? (r.label end_) with
    | none => rfl
    | some n => rfl
  rw [endpoints, endpoints, single, single]
  -- The source is looked for first, so its absence is what is reported.
  cases m.endpoint r .source with
  | error reason => rfl
  | ok source =>
    cases m.endpoint r .target with
    | error reason => rfl
    | ok target => rfl

/-- An end that leads nowhere is reported as before. -/
theorem checkEnds_recast (r : Relationship) :
    (m.recast v).checkEnds (v.relationship r) = m.checkEnds r := by
  simp only [checkEnds, Recast.relationship_label, Recast.relationship_type, node?_recast,
    Option.isSome_map]

/-- A row file is open in the recast model if the relationship declares none and the nodes at its
ends are read from two files afterwards. -/
theorem checkRowFile_recast (after : String) (r : Relationship) :
    (m.recast v).checkRowFile after (v.relationship r) =
      match v.relationshipFile r, m.node? r.source, m.node? r.target with
      | none, some source, some target =>
        if (v.node source).fileOr after = (v.node target).fileOr after then []
        else [.ambiguousSource r.type ((v.node source).fileOr after)
          ((v.node target).fileOr after)]
      | _, _, _ => [] := by
  rw [checkRowFile, Recast.relationship_sourceName, Recast.relationship_source,
    Recast.relationship_target, node?_recast, node?_recast]
  -- The ends lead to recast nodes, or to no node as before.
  cases v.relationshipFile r with
  | some name => rfl
  | none =>
    cases m.node? r.source with
    | none => rfl
    | some source =>
      cases m.node? r.target with
      | none => rfl
      | some target => rfl

/-- No report on an end is of an open row file. -/
theorem isAmbiguity_of_mem_checkEnds {r : Relationship} {d : Fault}
    (reported : d ∈ m.checkEnds r) : d.isAmbiguity = false := by
  obtain ⟨e, rfl⟩ := of_mem_checkEnds reported
  rfl

/-- All reports on a row file are that it is open. -/
theorem isAmbiguity_of_mem_checkRowFile {default : String} {r : Relationship} {d : Fault}
    (reported : d ∈ m.checkRowFile default r) : d.isAmbiguity = true := by
  obtain ⟨_, _, rfl⟩ := of_mem_checkRowFile reported
  rfl

variable {m v} {change : Fault → Option Fault} {default after : String}

/-- If only reports of open row files change, and do so relationship by relationship, the structure
of the recast model is reported as the change says. -/
theorem checkStructure_recast (only : OnlyAmbiguity change)
    (rows : ∀ r, (m.recast v).checkRowFile after (v.relationship r) =
      (m.checkRowFile default r).filterMap change) :
    (m.recast v).checkStructure after = (m.checkStructure default).filterMap change := by
  have unidentified : (m.nodes.map v.node).filter (·.identifying.isEmpty) =
      (m.nodes.filter (·.identifying.isEmpty)).map v.node := by
    rw [List.filter_map]
    congr 2
    funext n
    rw [Function.comp_apply, v.node_identifying, List.isEmpty_map]
  -- Labels, nodes without identity and repeated relationships are told by what is kept.
  simp only [checkStructure, List.filterMap_append, List.filterMap_flatMap, nodeLabels_recast]
  rw [only.filterMap_map fun _ => rfl, only.filterMap_map fun _ => rfl,
    only.filterMap_map fun _ => rfl]
  congr 1
  · simp only [nodes_recast, relationships_recast, unidentified, List.map_map, Function.comp_def,
      Recast.node_label, Recast.relationship_type, Recast.relationship_source,
      Recast.relationship_target]
  -- What is left is told of each relationship on its own.
  · rw [relationships_recast, List.flatMap_map]
    congr 1
    funext r
    rw [checkEnds_recast m v r, rows r,
      only.filterMap_eq_self fun d reported => m.isAmbiguity_of_mem_checkEnds reported]

/-- Without source files the faults of a recast model are those it had, apart from the change of
reports of open row files. -/
theorem faults_none_recast (only : OnlyAmbiguity change)
    (rows : ∀ r, (m.recast v).checkRowFile after (v.relationship r) =
      (m.checkRowFile default r).filterMap change) :
    (m.recast v).faults none after = (m.faults none default).filterMap change := by
  -- Elements report names and keys, which are kept, and know nothing of rows.
  have elements : ((m.recast v).elements.flatMap (·.check none)) =
      (m.elements.flatMap (·.check none)).filterMap change := by
    have plain : ∀ d ∈ m.elements.flatMap (·.check none), d.isAmbiguity = false := by
      intro d reported
      obtain ⟨e, _, raised⟩ := List.mem_flatMap.mp reported
      exact e.isAmbiguity_of_mem_check_none raised
    rw [only.filterMap_eq_self plain, elements_recast]
    simp only [elements, List.flatMap_append, List.flatMap_map, Recast.element_check_none]
  rw [faults, faults, checkStructure_recast only rows, elements]
  simp only [List.append_nil, List.filterMap_append]

end Model

end GraphLoad
