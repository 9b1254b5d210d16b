import GraphLoad.Proofs.Cypher.Body
import GraphLoad.Proofs.Cypher.Unambiguous
import GraphLoad.Proofs.Schema.Plan
import GraphLoad.Proofs.Schema.Recast
import GraphLoad.Proofs.Schema.StructuralFaults

/-! Open row files: the check reports exactly those relationships for which a plan has to fall back
on the default file. -/

namespace GraphLoad

open Cypher

/-- The report that a relationship leaves open which file holds its rows. There is one if both ends
lead to nodes and the plan between these is ambiguous. -/
def Model.openRowFile? (m : Model) (default : String) (r : Relationship) : Option Fault :=
  (m.endpoints r).toOption.bind fun ends =>
    if (r.plan ends.1 ends.2 default).isAmbiguous then
      some (.ambiguousSource r.type (ends.1.fileOr default) (ends.2.fileOr default))
    else none

namespace Relationship

variable {r : Relationship} {source target : Node} {default : String}

/-- A plan is ambiguous exactly for a relationship that declares no file, between nodes that are
read from two. -/
theorem isAmbiguous_plan_iff :
    (r.plan source target default).isAmbiguous = true ↔
      r.sourceName = none ∧ source.fileOr default ≠ target.fileOr default := by
  rw [EndpointPlan.isAmbiguous, plan_origin, decide_eq_true_iff]
  cases declared : r.sourceName with
  | some name => simp [rowFile_of_declared declared]
  | none =>
    by_cases shared : source.fileOr default = target.fileOr default
    · -- A shared file is inherited or assumed, depending on where it is declared.
      rw [rowFile_of_shared declared shared]
      cases source.sourceName <;> simp [shared]
    · simp [rowFile_of_apart declared shared, shared]

/-- A plan is ambiguous unless the row file is the declared one, or that of both nodes. -/
theorem isAmbiguous_plan_eq_false_iff :
    (r.plan source target default).isAmbiguous = false ↔
      r.sourceName = some (r.plan source target default).rowFile ∨
        source.fileOr default = (r.plan source target default).rowFile ∧
          target.fileOr default = (r.plan source target default).rowFile := by
  rw [← Bool.not_eq_true, isAmbiguous_plan_iff, plan_rowFile]
  cases declared : r.sourceName with
  | some name => simp [rowFile_of_declared declared]
  | none =>
    by_cases shared : source.fileOr default = target.fileOr default
    · simp [rowFile_of_shared declared shared, shared]
    · -- The default file cannot be that of both nodes, since these are read from two.
      simp only [rowFile_of_apart declared shared, true_and, ne_eq, shared, not_false_iff,
        not_true_eq_false, reduceCtorEq, false_or, false_iff, not_and]
      exact fun first second => shared (first.trans second.symm)

/-- With an ambiguous plan the rows are taken from the default file, and the nodes are found one by
one. -/
theorem plan_of_isAmbiguous (open_ : (r.plan source target default).isAmbiguous = true) :
    (r.plan source target default).rowFile = default ∧
      (r.plan source target default).layout = .multiFile := by
  obtain ⟨undeclared, apart⟩ := isAmbiguous_plan_iff.mp open_
  have assumed := rowFile_of_apart undeclared apart
  refine ⟨by rw [plan_rowFile, assumed], ?_⟩
  -- Not both of two different files are the default one.
  have elsewhere : source.fileOr default ≠ default ∨ target.fileOr default ≠ default := by
    by_contra both
    simp only [ne_eq, not_or, Decidable.not_not] at both
    exact apart (both.1.trans both.2.symm)
  simp [plan, assumed, elsewhere]

end Relationship

namespace Model

variable (m : Model) (default : String) (r : Relationship)

/-- Between two nodes, a report depends on the plan. -/
theorem openRowFile?_of_endpoints {m : Model} {r : Relationship} {source target : Node}
    (resolved : m.endpoints r = .ok (source, target)) :
    m.openRowFile? default r =
      if (r.plan source target default).isAmbiguous then
        some (.ambiguousSource r.type (source.fileOr default) (target.fileOr default))
      else none := by
  rw [openRowFile?, resolved]
  rfl

/-- The check of the row file reports what the plan leaves open. -/
theorem checkRowFile_eq_toList : m.checkRowFile default r = (m.openRowFile? default r).toList := by
  cases resolved : m.endpoints r with
  | error reason =>
    -- Without one of the nodes there is nothing to compare.
    have missing : ¬ ∃ source target, m.node? r.source = some source ∧
        m.node? r.target = some target := by
      rintro ⟨source, target, both⟩
      rw [endpoints_eq_ok_iff.mpr both] at resolved
      cases resolved
    rw [openRowFile?, resolved, checkRowFile]
    split
    · rename_i source target _ atSource atTarget
      exact absurd ⟨source, target, atSource, atTarget⟩ missing
    · rfl
  | ok ends =>
    obtain ⟨source, target⟩ := ends
    obtain ⟨atSource, atTarget⟩ := endpoints_eq_ok_iff.mp resolved
    -- With both nodes, the check compares what makes the plan ambiguous.
    rw [openRowFile?_of_endpoints default resolved]
    simp only [checkRowFile, atSource, atTarget, Relationship.isAmbiguous_plan_iff]
    cases r.sourceName with
    | some name => simp
    | none => by_cases shared : source.fileOr default = target.fileOr default <;> simp [shared]

/-- Open row files are reported among the faults of the structure, whatever is known of files. -/
theorem filter_isAmbiguity_faults (files : Option SourceFiles) :
    (m.faults files default).filter Fault.isAmbiguity =
      (m.checkStructure default).filter Fault.isAmbiguity := by
  -- They do not lie in what the files hold.
  have structural : ∀ d : Fault, d.isAmbiguity = true → d.concernsColumns = false := by
    intro d open_
    cases d with
    | ambiguousSource => rfl
    | _ => cases open_
  have elements : (m.elements.flatMap (·.check none)).filter Fault.isAmbiguity = [] := by
    refine List.filter_eq_nil_iff.mpr fun d reported => ?_
    obtain ⟨e, _, raised⟩ := List.mem_flatMap.mp reported
    simp [e.isAmbiguity_of_mem_check_none raised]
  rw [filter_faults_of_structural structural, faults, List.append_nil, List.filter_append, elements,
    List.append_nil]

/-- Among the faults of the structure, what is open is reported relationship by relationship. -/
theorem filter_isAmbiguity_checkStructure :
    (m.checkStructure default).filter Fault.isAmbiguity =
      m.relationships.filterMap (m.openRowFile? default) := by
  -- A relationship is asked for its ends, which says nothing of files, and for its row file.
  have each : ∀ r, (m.checkEnds r ++ m.checkRowFile default r).filter Fault.isAmbiguity =
      (m.openRowFile? default r).toList := by
    intro r
    have ends : (m.checkEnds r).filter Fault.isAmbiguity = [] :=
      List.filter_eq_nil_iff.mpr fun d reported => by
        simp [m.isAmbiguity_of_mem_checkEnds reported]
    have rows : (m.checkRowFile default r).filter Fault.isAmbiguity = m.checkRowFile default r :=
      List.filter_eq_self.mpr fun d reported => m.isAmbiguity_of_mem_checkRowFile reported
    rw [List.filter_append, ends, rows, List.nil_append, checkRowFile_eq_toList]
  simp only [checkStructure, List.filter_append, List.filter_flatMap, each]
  rw [filter_map_eq_nil fun _ => rfl, filter_map_eq_nil fun _ => rfl,
    filter_map_eq_nil fun _ => rfl, List.filterMap_eq_flatMap_toList]
  simp

/-- Open row files are reported in order, for the relationships with an ambiguous plan. All others
have their rows where they or both of their nodes are; these have them in the default file and find
their nodes by two clauses. -/
theorem openRowFiles_reported (files : Option SourceFiles) :
    (m.faults files default).filter Fault.isAmbiguity =
        m.relationships.filterMap (m.openRowFile? default) ∧
      ∀ (r : Relationship) (source target : Node), m.endpoints r = .ok (source, target) →
        (m.openRowFile? default r = none ↔
          r.sourceName = some (r.plan source target default).rowFile ∨
            source.fileOr default = (r.plan source target default).rowFile ∧
              target.fileOr default = (r.plan source target default).rowFile) ∧
        (m.openRowFile? default r ≠ none →
          (r.plan source target default).rowFile = default ∧
            ∀ strict found, findEndpoints r source target default strict = .ok found →
              ∃ first second : NodePattern,
                first.var = Endpoint.source.name ∧ second.var = Endpoint.target.name ∧
                  found.map Clause.text = ["MATCH " ++ first.text, "MATCH " ++ second.text]) := by
  refine ⟨?_, ?_⟩
  · rw [filter_isAmbiguity_faults, filter_isAmbiguity_checkStructure]
  · -- Whether there is a report can be read off the plan.
    intro r source target resolved
    rw [openRowFile?_of_endpoints default resolved, ← Relationship.isAmbiguous_plan_eq_false_iff]
    cases open_ : (r.plan source target default).isAmbiguous with
    | false => simp
    | true =>
      obtain ⟨assumed, apart⟩ := Relationship.plan_of_isAmbiguous open_
      refine ⟨by simp, fun _ => ⟨assumed, ?_⟩⟩
      intro strict found written
      obtain ⟨_, _, _, _, rfl⟩ := findEndpoints_eq_ok_iff.mp written
      -- The layout has one clause for each of the two patterns.
      let plan := r.plan source target default
      let first : NodePattern :=
        ⟨Endpoint.source.name, source.label, bindings source.identifying plan.sourceRole strict⟩
      let second : NodePattern :=
        ⟨Endpoint.target.name, target.label, bindings target.identifying plan.targetRole strict⟩
      refine ⟨first, second, rfl, rfl, ?_⟩
      rw [findClauses, apart]
      simp only [List.map_cons, List.map_nil, Clause.text_find, String.intercalate_singleton, plan,
        first, second]

/-- Owners, who are read from the default file. -/
def kennelOwner : Node where
  label := "Owner"
  properties := [{ name := "name", column := "owner", isUnique := true }]

/-- Dogs, which are read from a file of their own. -/
def kennelDog : Node where
  label := "Dog"
  properties := [{ name := "chip", column := "chip", isUnique := true }]
  sourceName := some "dogs.csv"

/-- Walks, which do not say where they are read from. -/
def kennelWalks : Relationship where
  type := "WALKS"
  source := "Owner"
  target := "Dog"

/-- A kennel that leaves open where walks are read from, and says it of meals. -/
def kennel : Model where
  nodes := [kennelOwner, kennelDog]
  relationships := [kennelWalks,
    { type := "FEEDS", source := "Owner", target := "Dog", sourceName := some "owners.csv" }]

/-- Walks are reported, and their two nodes are found by two clauses. -/
theorem openRowFiles_reported_kennel :
    kennel.endpoints kennelWalks = .ok (kennelOwner, kennelDog) ∧
      kennel.openRowFile? "owners.csv" kennelWalks ≠ none ∧
      (kennelWalks.plan kennelOwner kennelDog "owners.csv").rowFile = "owners.csv" ∧
      ∃ found, findEndpoints kennelWalks kennelOwner kennelDog "owners.csv" true = .ok found ∧
        ∃ first second : NodePattern,
          first.var = Endpoint.source.name ∧ second.var = Endpoint.target.name ∧
            found.map Clause.text = ["MATCH " ++ first.text, "MATCH " ++ second.text] := by
  -- Walks declare no file, and their nodes are read from two.
  have resolved : kennel.endpoints kennelWalks = .ok (kennelOwner, kennelDog) := by decide
  have reported : kennel.openRowFile? "owners.csv" kennelWalks ≠ none := by decide
  obtain ⟨assumed, lines⟩ :=
    ((openRowFiles_reported kennel "owners.csv" none).2 _ _ _ resolved).2 reported
  exact ⟨resolved, reported, assumed, _, rfl, lines true _ rfl⟩

end Model

end GraphLoad
