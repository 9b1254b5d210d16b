import GraphLoad.Proofs.Loading.ColumnCheck
import GraphLoad.Proofs.Loading.Recast
import Mathlib.Logic.Equiv.Basic

/-! Names of files: they are compared with each other and with the default file, and nothing depends
on them in any other way. -/

namespace GraphLoad

open Cypher

/-- The fault with other names for the two files between which a row file is left open. -/
def Fault.renameFiles (f : String → String) : Fault → Fault
  | .ambiguousSource type sourceFile targetFile =>
    .ambiguousSource type (f sourceFile) (f targetFile)
  | d => d

/-- A fault that is not of an open row file names no such files. -/
theorem Fault.renameFiles_eq_self (f : String → String) (d : Fault)
    (plain : d.isAmbiguity = false) : d.renameFiles f = d := by
  cases d with
  | ambiguousSource => cases plain
  | _ => rfl

/-- Whether a fault blocks does not depend on the files it names. -/
theorem Fault.isBlocking_renameFiles (f : String → String) (d : Fault) :
    (d.renameFiles f).isBlocking = d.isBlocking := by
  cases d <;> rfl

/-- Renames the files that elements declare. -/
def Recast.renameFiles (f : String → String) : Recast :=
  .ofFiles (fun n => n.sourceName.map f) fun r => r.sourceName.map f

/-- The model with other names for the files that its elements declare. -/
def Model.renameFiles (m : Model) (f : String → String) : Model :=
  m.recast (.renameFiles f)

namespace Recast

variable {f : String → String}

@[simp] theorem renameFiles_relationshipFile (r : Relationship) :
    (renameFiles f).relationshipFile r = r.sourceName.map f :=
  rfl

/-- With the default file renamed as well, a node is read from the renamed file. -/
@[simp] theorem fileOr_renameFiles (n : Node) (default : String) :
    ((renameFiles f).node n).fileOr (f default) = f (n.fileOr default) :=
  Option.getD_map f default n.sourceName

/-- A node that declares no file that is renamed stays the same. -/
theorem node_renameFiles_eq_self {n : Node} (fixed : n.sourceName.map f = n.sourceName) :
    (renameFiles f).node n = n := by
  rw [renameFiles, node_ofFiles, fixed]

/-- A relationship that declares no file that is renamed stays the same. -/
theorem relationship_renameFiles_eq_self {r : Relationship}
    (fixed : r.sourceName.map f = r.sourceName) : (renameFiles f).relationship r = r := by
  rw [renameFiles, relationship_ofFiles, fixed]

end Recast

namespace Relationship

variable {f : String → String}

/-- The row file is decided by which files are the same, so it is renamed with them. -/
theorem rowFile_renameFiles (injective : Function.Injective f) (r : Relationship)
    (source target : Node) (default : String) :
    ((Recast.renameFiles f).relationship r).rowFile ((Recast.renameFiles f).node source)
        ((Recast.renameFiles f).node target) (f default) =
      (r.rowFile source target default).map f id := by
  cases declared : r.sourceName with
  | some name =>
    have renamed : ((Recast.renameFiles f).relationship r).sourceName = some (f name) := by
      simp [declared]
    rw [rowFile_of_declared declared, rowFile_of_declared renamed]
    rfl
  | none =>
    have renamed : ((Recast.renameFiles f).relationship r).sourceName = none := by
      simp [declared]
    by_cases shared : source.fileOr default = target.fileOr default
    · -- The source node declares its file after the renaming exactly if it did so before.
      have together : ((Recast.renameFiles f).node source).fileOr (f default) =
          ((Recast.renameFiles f).node target).fileOr (f default) := by
        rw [Recast.fileOr_renameFiles, Recast.fileOr_renameFiles, shared]
      have stated : ((Recast.renameFiles f).node source).sourceName.isSome =
          source.sourceName.isSome := Option.isSome_map
      rw [rowFile_of_shared declared shared, rowFile_of_shared renamed together,
        Recast.fileOr_renameFiles, stated]
      rfl
    · -- Two files are not made one, as the renaming is injective.
      have apart : ((Recast.renameFiles f).node source).fileOr (f default) ≠
          ((Recast.renameFiles f).node target).fileOr (f default) := by
        rw [Recast.fileOr_renameFiles, Recast.fileOr_renameFiles]
        exact injective.ne shared
      rw [rowFile_of_apart declared shared, rowFile_of_apart renamed apart]
      rfl

/-- A plan depends on which files are the same, and its row file is renamed with them. -/
theorem plan_renameFiles (injective : Function.Injective f) (r : Relationship)
    (source target : Node) (default : String) :
    ((Recast.renameFiles f).relationship r).plan ((Recast.renameFiles f).node source)
        ((Recast.renameFiles f).node target) (f default) =
      { r.plan source target default with
        rowFile := f (r.plan source target default).rowFile } := by
  have self : ((Recast.renameFiles f).relationship r).isSelfRelationship =
      r.isSelfRelationship := rfl
  rw [plan, plan, rowFile_renameFiles injective]
  simp only [Prod.map, Recast.fileOr_renameFiles, injective.ne_iff, self, id]

end Relationship

namespace Model

variable {m : Model} {f : String → String} {default : String}

/-- Renaming the files in the reports of open row files gives no reason to refuse a model. -/
theorem onlyAmbiguity_renameFiles (f : String → String) :
    OnlyAmbiguity (some ∘ Fault.renameFiles f) where
  kept d plain := congrArg some (d.renameFiles_eq_self f plain)
  tolerated d other open_ changed := by
    obtain rfl := Option.some.inj changed
    rw [d.isBlocking_renameFiles f, d.isBlocking_of_isAmbiguity open_]

/-- A row file is open after the renaming exactly if it was open before, between renamed files. -/
theorem checkRowFile_renameFiles (injective : Function.Injective f) (r : Relationship) :
    (m.renameFiles f).checkRowFile (f default) ((Recast.renameFiles f).relationship r) =
      (m.checkRowFile default r).map (Fault.renameFiles f) := by
  -- The check looks at the files of the relationship and its nodes, and at nothing else.
  rw [renameFiles, checkRowFile_recast, checkRowFile]
  simp only [Recast.renameFiles_relationshipFile]
  cases r.sourceName with
  | some name => rfl
  | none =>
    cases m.node? r.source with
    | none => rfl
    | some source =>
      cases m.node? r.target with
      | none => rfl
      | some target =>
        -- Two renamed files are the same exactly if the files are, as the renaming is injective.
        simp only [Option.map_none, Recast.fileOr_renameFiles, injective.eq_iff]
        split
        · rfl
        · rfl

/-- Without knowledge of the files a model has the faults it had, with the files renamed in the
reports of open row files. -/
theorem faults_renameFiles (injective : Function.Injective f) :
    (m.renameFiles f).faults none (f default) =
      (m.faults none default).map (Fault.renameFiles f) := by
  rw [← List.filterMap_eq_map]
  refine faults_none_recast (onlyAmbiguity_renameFiles f) fun r => ?_
  rw [List.filterMap_eq_map]
  exact checkRowFile_renameFiles injective r

end Model

namespace Cypher

/-- The work on a row of a relationship stays the same when all files are renamed, the default file
included. -/
theorem relationshipBody_renameFiles {f : String → String} (injective : Function.Injective f)
    (r : Relationship) (source target : Node) (default : String) (strict : Bool) :
    relationshipBody ((Recast.renameFiles f).relationship r) ((Recast.renameFiles f).node source)
        ((Recast.renameFiles f).node target) (f default) strict =
      relationshipBody r source target default strict :=
  relationshipBody_recast (fun _ _ => rfl) (r.plan_renameFiles injective source target default)

/-- Which of two default files a relationship falls back on makes no difference to its work, if
neither it nor its nodes declare one of them. -/
theorem relationshipBody_of_undeclared {r : Relationship} {source target : Node}
    {default other : String}
    (undeclared : ∀ declared ∈ [r.sourceName, source.sourceName, target.sourceName],
      declared ≠ some default ∧ declared ≠ some other) (strict : Bool) :
    relationshipBody r source target other strict =
      relationshipBody r source target default strict := by
  -- Exchanging the two names renames one default to the other, and nothing that is declared.
  let exchange := Equiv.swap default other
  have fixed : ∀ declared ∈ [r.sourceName, source.sourceName, target.sourceName],
      declared.map exchange = declared := by
    intro declared member
    obtain ⟨first, second⟩ := undeclared declared member
    cases declared with
    | none => rfl
    | some name =>
      have same := Equiv.swap_apply_of_ne_of_ne (fun h => first (congrArg some h))
        fun h => second (congrArg some h)
      exact congrArg some same
  have body := relationshipBody_renameFiles exchange.injective r source target default strict
  -- So the renamed elements are the elements themselves, under the other default.
  rw [Recast.relationship_renameFiles_eq_self (fixed _ (by simp)),
    Recast.node_renameFiles_eq_self (fixed _ (by simp)),
    Recast.node_renameFiles_eq_self (fixed _ (by simp)), Equiv.swap_apply_left] at body
  exact body

end Cypher

namespace Compiler

/-- The compiler with other names for all files, of which nothing is known. -/
def renameFiles (c : Compiler) (f : String → String) (named : f c.options.sourceName ≠ "") :
    Compiler where
  model := c.model.renameFiles f
  options := { c.options with sourceName := f c.options.sourceName }
  valid := by
    have positive := c.batchSize_ne_zero
    simp [LoadOptions.problems, named, positive]

/-- A compiler with other names for all files refuses, reads and plans as before. -/
theorem recasts_renameFiles (c : Compiler) {f : String → String}
    (injective : Function.Injective f) (named : f c.options.sourceName ≠ "") :
    (c.withFiles none).Recasts (c.renameFiles f named) (.renameFiles f) f where
  model := rfl
  -- Faults name files, and these are renamed with all others.
  check := by
    refine check_of_onlyAmbiguity (Model.onlyAmbiguity_renameFiles f) ?_
    rw [List.filterMap_eq_map]
    exact Model.faults_renameFiles injective
  reads _ _ := rfl
  nodeSource n := Recast.fileOr_renameFiles n c.options.sourceName
  plan r source target _ :=
    ⟨_, r.plan_renameFiles injective source target c.options.sourceName⟩

/-- A statement for a relationship has the text that is written over parameters without any options,
where what declares no file is read from the implicit one. -/
def UnwindsImplicitly (c : Compiler) (r : Relationship) (s : Statement) : Prop :=
  ∃ source target, c.model.endpoints r = .ok (source, target) ∧
    s.element = .relationship r.type ∧
    relationshipUnwindText r source target c.options.strictTyping = .ok s.cypher

/-- If no element declares the default file or the implicit one, the statements of relationships
over parameters are those written without options. -/
theorem unwindsImplicitly_of_undeclared {c : Compiler} {statements : List Statement}
    (written : c.unwindStatements = .ok statements)
    (undeclared : ∀ e ∈ c.model.elements,
      e.sourceName ≠ some c.options.sourceName ∧ e.sourceName ≠ some implicitSource) :
    List.Forall₂ c.UnwindsImplicitly c.model.relationships
      (statements.drop c.model.nodes.length) := by
  simp only [unwindStatements, bind_eq_ok_iff, loads_eq_ok_iff, Pure.pure, Except.pure,
    Except.ok.injEq] at written
  obtain ⟨_, ⟨_, nodeLoads, relationshipLoads, nodes, relationships, rfl⟩, rfl⟩ := written
  -- The statements of the nodes come first, as many as there are nodes.
  have count : c.model.nodes.length = (nodeLoads.map Load.unwind).length := by
    rw [List.length_map]
    exact (mapM_eq_ok_iff.mp nodes).length_eq
  rw [List.map_append, List.drop_left' count.symm, List.forall₂_map_right_iff]
  have each : ∀ r l, r ∈ c.model.relationships ∧ c.relationshipLoad r = .ok l →
      c.UnwindsImplicitly r l.unwind := by
    rintro r l ⟨member, built⟩
    obtain ⟨source, target, body, resolved, worked, rfl⟩ := relationshipLoad_eq_ok_iff.mp built
    obtain ⟨atSource, atTarget⟩ := Model.endpoints_eq_ok_iff.mp resolved
    have own := undeclared r.element (Model.relationship_mem_elements member)
    have first := undeclared source.element
      (Model.node_mem_elements (Model.node?_eq_some atSource).1)
    have second := undeclared target.element
      (Model.node_mem_elements (Model.node?_eq_some atTarget).1)
    -- None of the three declares one of the two defaults, so these can take each other's place.
    have same := relationshipBody_of_undeclared
      (List.forall_mem_cons.mpr ⟨own, List.forall_mem_cons.mpr
        ⟨first, List.forall_mem_singleton.mpr second⟩⟩) c.options.strictTyping
    refine ⟨source, target, resolved, rfl, ?_⟩
    rw [relationshipUnwindText, same, worked]
    rfl
  exact ((List.forall₂_and_left _ _).mpr
    ⟨fun _ member => member, mapM_eq_ok_iff.mp relationships⟩).imp each

/-- Only which files are the same matters: renaming all of them, the default file included, keeps
every statement over parameters and every fault up to the names. So where nobody declares a default
file, relationships are written as without options. -/
theorem file_names_immaterial (c : Compiler) :
    (∀ f : String → String, Function.Injective f → ∀ named : f c.options.sourceName ≠ "",
      (c.renameFiles f named).unwindStatements =
          (c.withFiles none).unwindStatements.map (List.map (Statement.renameFile f)) ∧
        (c.renameFiles f named).faults =
          (c.withFiles none).faults.map (Fault.renameFiles f)) ∧
    ∀ statements, (c.withFiles none).unwindStatements = .ok statements →
      (∀ e ∈ c.model.elements,
        e.sourceName ≠ some c.options.sourceName ∧ e.sourceName ≠ some implicitSource) →
      List.Forall₂ c.UnwindsImplicitly c.model.relationships
        (statements.drop c.model.nodes.length) := by
  refine ⟨fun f injective named => ⟨?_, ?_⟩, fun statements written undeclared => ?_⟩
  · exact (c.recasts_renameFiles injective named).unwindStatements
  · exact Model.faults_renameFiles injective
  · exact unwindsImplicitly_of_undeclared (c := c.withFiles none) written undeclared

/-- Beds in a file of their own and plants in the default one, which is not the implicit one; which
file says what grows where is left open. -/
def beds : Compiler where
  model := {
    nodes := [
      { label := "Plant",
        properties := [
          { name := "name", column := "plant", aliasColumn := some "grown", isUnique := true }] },
      { label := "Bed", sourceName := some "beds.csv",
        properties := [
          { name := "row", column := "row", valueType := .integer, partOfKey := true },
          { name := "place", column := "place", aliasColumn := some "next", partOfKey := true }] }]
    relationships := [
      { type := "GROWS_IN", source := "Plant", target := "Bed" },
      { type := "NEXT_TO", source := "Bed", target := "Bed",
        properties := [{ name := "since", column := "since", valueType := .date }] }] }
  options := { sourceName := "plants.csv" }
  valid := by decide

/-- Beds and plants can be moved to a directory, and no element declares one of the two defaults. -/
theorem file_names_immaterial_beds :
    Function.Injective ("garden/" ++ ·) ∧ "garden/" ++ beds.options.sourceName ≠ "" ∧
      (∃ moved : "garden/" ++ beds.options.sourceName ≠ "",
        (beds.renameFiles ("garden/" ++ ·) moved).unwindStatements =
            (beds.withFiles none).unwindStatements.map
              (List.map (Statement.renameFile ("garden/" ++ ·))) ∧
          (beds.renameFiles ("garden/" ++ ·) moved).faults =
            (beds.withFiles none).faults.map (Fault.renameFiles ("garden/" ++ ·))) ∧
      (∀ e ∈ beds.model.elements,
        e.sourceName ≠ some beds.options.sourceName ∧ e.sourceName ≠ some implicitSource) ∧
      ∃ statements, (beds.withFiles none).unwindStatements = .ok statements ∧
        List.Forall₂ beds.UnwindsImplicitly beds.model.relationships
          (statements.drop beds.model.nodes.length) := by
  -- A directory in front tells names apart as they were.
  have injective : Function.Injective ("garden/" ++ ·) :=
    fun _ _ same => (String.append_right_inj "garden/").mp same
  have named : "garden/" ++ beds.options.sourceName ≠ "" := by decide
  have undeclared : ∀ e ∈ beds.model.elements,
      e.sourceName ≠ some beds.options.sourceName ∧ e.sourceName ≠ some implicitSource := by decide
  refine ⟨injective, named, ⟨named, (file_names_immaterial beds).1 _ injective named⟩, undeclared,
    _, rfl, ?_⟩
  exact (file_names_immaterial beds).2 _ rfl undeclared

end Compiler

end GraphLoad
