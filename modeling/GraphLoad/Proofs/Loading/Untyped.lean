import GraphLoad.Proofs.Loading.Recast
import GraphLoad.Proofs.Loading.UndeclaredFiles

/-! Models without types: turning typing off for the load is the same as taking all types out of the
model. -/

namespace GraphLoad

open Cypher

/-- Makes a text of every property. -/
def Recast.untyped : Recast where
  property p := { p with valueType := .text }
  nodeFile := Node.sourceName
  relationshipFile := Relationship.sourceName
  name _ := rfl
  isUnique _ := rfl
  partOfKey _ := rfl

/-- The model with a text for every property. -/
def Model.untyped (m : Model) : Model :=
  m.recast .untyped

namespace Recast

variable (n : Node) (r : Relationship) (source target : Node) (default : String)

/-- A property is read from the columns it was read from, whatever its type. -/
@[simp] theorem column_untyped (p : Property) (role : ColumnRole) :
    role.column (untyped.property p) = role.column p := by
  cases role <;> rfl

/-- A node is read from the file it was read from. -/
@[simp] theorem fileOr_untyped : (untyped.node n).fileOr default = n.fileOr default :=
  rfl

/-- A plan does not look at types. -/
@[simp] theorem plan_untyped :
    (untyped.relationship r).plan (untyped.node source) (untyped.node target) default =
      r.plan source target default :=
  rfl

/-- A text that is read strictly is read as it stands, like any property without typing. -/
theorem readsAlike_untyped : untyped.ReadsAlike false true := by
  intro p role
  rw [rowValue, rowValue, column_untyped]
  rfl

/-- Properties without types lack the columns that they lacked. -/
theorem missing_untyped (properties : List Property) (role : ColumnRole) (columns : List String)
    (report : String → String → Fault) :
    (((properties.map untyped.property).filter fun p => !columns.contains (role.column p)).map
        fun p => report p.name (role.column p)) =
      (properties.filter fun p => !columns.contains (role.column p)).map
        fun p => report p.name (role.column p) := by
  rw [untyped.filter_property fun p => by rw [column_untyped], List.map_map]
  refine List.map_congr_left fun p _ => ?_
  rw [Function.comp_apply, column_untyped, untyped.name]

end Recast

namespace Element

/-- Properties without types lack the columns that they lacked. -/
theorem checkColumns_untyped (e : Element) (files : SourceFiles) :
    (Recast.untyped.element e e.sourceName).checkColumns files = e.checkColumns files := by
  have declared : (Recast.untyped.element e e.sourceName).sourceName = e.sourceName := rfl
  rw [checkColumns, checkColumns, declared]
  -- The same file is asked, and its columns have no types.
  cases files.columnsFor e.sourceName with
  | none => rfl
  | some columns =>
    exact Recast.missing_untyped e.properties .primary columns (Fault.missingColumn e.ref)

/-- An element without types has the faults that it had. -/
theorem check_untyped (e : Element) (files : Option SourceFiles) :
    (Recast.untyped.element e e.sourceName).check files = e.check files := by
  cases files with
  | none => exact Recast.untyped.element_check_none e e.sourceName
  | some files =>
    -- Without files only names and key are looked at, and with files the source comes first.
    have source : (Recast.untyped.element e e.sourceName).checkSource files =
        e.checkSource files := rfl
    rw [check, check, source, checkProperties, checkProperties, checkColumns_untyped,
      Recast.element_checkNames, Recast.element_checkKey]

end Element

namespace Model

variable (m : Model) (default : String)

/-- Without types a row file is open if it was open before. -/
theorem checkRowFile_untyped (r : Relationship) :
    m.untyped.checkRowFile default (Recast.untyped.relationship r) = m.checkRowFile default r := by
  rw [untyped, checkRowFile_recast, checkRowFile]
  rfl

/-- Without types an end of a relationship lacks the columns that it lacked. -/
theorem checkEndColumns_untyped (r : Relationship) (plan : EndpointPlan) (columns : List String)
    (e : Endpoint) (n : Node) :
    checkEndColumns (Recast.untyped.relationship r) plan columns default e (Recast.untyped.node n) =
      checkEndColumns r plan columns default e n := by
  -- An end is found by the columns of its identifying properties, in the role that the plan gives.
  have missing := Recast.missing_untyped n.identifying (plan.role e) columns
    fun property column =>
      .missingEndpointColumn r.type e n.label property column plan.rowFile
  rw [checkEndColumns, checkEndColumns, Recast.fileOr_untyped, Recast.node_identifying]
  split
  · rfl
  · exact missing

/-- Without types the ends of a relationship lack the columns that they lacked. -/
theorem checkEndpoints_untyped (files : SourceFiles) (r : Relationship) :
    m.untyped.checkEndpoints files default (Recast.untyped.relationship r) =
      m.checkEndpoints files default r := by
  rw [checkEndpoints, checkEndpoints, untyped, Recast.relationship_source,
    Recast.relationship_target, node?_recast, node?_recast]
  cases m.node? r.source with
  | none => rfl
  | some source =>
    cases m.node? r.target with
    | none => rfl
    | some target =>
      -- The plan is the same, so the same columns are looked up for both ends.
      simp only [Option.map_some, Recast.plan_untyped, checkEndColumns_untyped]

/-- A model without types has the faults that it had. -/
theorem faults_untyped (files : Option SourceFiles) :
    m.untyped.faults files default = m.faults files default := by
  -- Each of the three parts of the check is a walk over the elements, and reports what it did for
  -- each of them.
  have structure_ : m.untyped.checkStructure default = m.checkStructure default := by
    have same : m.untyped.checkStructure default =
        (m.checkStructure default).filterMap some := by
      refine checkStructure_recast .unchanged fun r => ?_
      rw [List.filterMap_some]
      exact m.checkRowFile_untyped default r
    rwa [List.filterMap_some] at same
  have elements : m.untyped.elements.flatMap (·.check files) =
      m.elements.flatMap (·.check files) := by
    have nodes : ∀ n ∈ m.nodes, (Recast.untyped.element n.element n.sourceName).check files =
        n.element.check files := fun n _ => n.element.check_untyped files
    have relationships : ∀ r ∈ m.relationships,
        (Recast.untyped.element r.element r.sourceName).check files = r.element.check files :=
      fun r _ => r.element.check_untyped files
    rw [untyped, elements_recast, Model.elements]
    simp only [List.flatMap_append, List.flatMap_map]
    exact congrArg₂ (· ++ ·) (List.flatMap_congr nodes) (List.flatMap_congr relationships)
  cases files with
  | none => simp only [faults, structure_, elements]
  | some files =>
    have ends : m.untyped.relationships.flatMap (m.untyped.checkEndpoints files default) =
        m.relationships.flatMap (m.checkEndpoints files default) := by
      rw [untyped, relationships_recast, List.flatMap_map]
      exact List.flatMap_congr fun r _ => m.checkEndpoints_untyped default files r
    simp only [faults, structure_, elements, ends]

end Model

namespace Compiler

/-- The compiler with typing turned on or off. -/
def withTyping (c : Compiler) (strict : Bool) : Compiler where
  model := c.model
  options := { c.options with strictTyping := strict }
  files := c.files
  valid := c.valid

/-- The compiler of the model without types. -/
def untyped (c : Compiler) : Compiler :=
  c.withModel c.model.untyped

/-- Under strict typing the model without types is refused, read and planned as the model itself is
without typing. -/
theorem recasts_untyped (c : Compiler) :
    (c.withTyping false).Recasts (c.untyped.withTyping true) .untyped id where
  model := rfl
  -- Not a single report changes, so none of the open row files does.
  check := by
    refine check_of_onlyAmbiguity OnlyAmbiguity.unchanged ?_
    rw [List.filterMap_some]
    exact c.model.faults_untyped c.options.sourceName c.files
  reads := Recast.readsAlike_untyped
  nodeSource _ := rfl
  plan r source target _ :=
    ⟨_, Recast.plan_untyped r source target c.options.sourceName⟩

/-- Typing is the only use of types. Taking them out of a model changes neither its faults nor its
constraints, and what is then written under strict typing is what is written of the model itself
with typing turned off. -/
theorem untyped_writesAlike (c : Compiler) :
    c.untyped.faults = c.faults ∧ c.untyped.constraints = c.constraints ∧
      (c.withTyping false).WritesAlike (c.untyped.withTyping true) := by
  have recasts := c.recasts_untyped
  refine ⟨c.model.faults_untyped c.options.sourceName c.files, ?_, recasts.writesAlike rfl rfl rfl⟩
  -- Constraints do not depend on typing.
  exact recasts.constraints

end Compiler

end GraphLoad
