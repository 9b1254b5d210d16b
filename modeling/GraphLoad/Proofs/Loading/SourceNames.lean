import GraphLoad.Proofs.Loading.Gate

/-! The files that a model names against those that its statements read: they differ in the implicit
file only, which is named for relationships that inherit the file of their nodes. -/

namespace GraphLoad

open Cypher

section Repetitions

variable {α : Type} [BEq α] [LawfulBEq α] {front : List α}

/-- Two lists are left alike where they differ in items only that are removed. -/
theorem removeAll_congr {xs ys : List α}
    (related : List.Forall₂ (fun x y => x = y ∨ x ∈ front ∧ y ∈ front) xs ys) :
    xs.removeAll front = ys.removeAll front := by
  -- Items in one place are either both removed or one and the same.
  induction related with
  | nil => rfl
  | cons first _ ih =>
    rcases first with rfl | ⟨left, right⟩
    · rw [List.cons_removeAll, List.cons_removeAll, ih]
    · simp [List.cons_removeAll, left, right, ih]

/-- Behind a list, items of the list can be exchanged for each other. -/
theorem eraseDups_congr {xs ys : List α}
    (related : List.Forall₂ (fun x y => x = y ∨ x ∈ front ∧ y ∈ front) xs ys) :
    (front ++ xs).eraseDups = (front ++ ys).eraseDups := by
  rw [List.eraseDups_append, List.eraseDups_append, removeAll_congr related]

/-- What is seen first in a list is seen first in a longer one. -/
theorem eraseDups_prefix_append (xs ys : List α) : xs.eraseDups <+: (xs ++ ys).eraseDups := by
  rw [List.eraseDups_append]
  exact List.prefix_append _ _

/-- Behind a list, an item of the list adds nothing. -/
theorem eraseDups_append_cons {a : α} (seen : a ∈ front) (rest : List α) :
    (front ++ a :: rest).eraseDups = (front ++ rest).eraseDups := by
  simp [List.eraseDups_append, List.cons_removeAll, seen]

/-- An item adds nothing exactly if it is in front, or comes next without it. -/
theorem eraseDups_append_cons_iff {a : α} {rest : List α} :
    (front ++ a :: rest).eraseDups = (front ++ rest).eraseDups ↔
      (front ++ [a]).eraseDups <+: (front ++ rest).eraseDups := by
  constructor
  · intro same
    rw [← same, List.append_cons front a rest]
    exact eraseDups_prefix_append _ _
  · intro next
    -- An item that came in front adds nothing.
    by_cases seen : a ∈ front
    · exact eraseDups_append_cons seen rest
    · have first : ∀ others : List α, (a :: others).removeAll front = a :: others.removeAll front :=
        fun others => by simp [List.cons_removeAll, seen]
      rw [List.eraseDups_append, List.eraseDups_append, first, List.prefix_append_right_inj] at next
      rw [List.eraseDups_append, List.eraseDups_append, first]
      -- What is new behind the list starts with the item.
      cases new : rest.removeAll front with
      | nil => simp [new, List.eraseDups_cons] at next
      | cons b others =>
        simp only [new, List.nil_removeAll, List.eraseDups_cons, List.cons_prefix_cons] at next
        simp [List.eraseDups_cons, next.1]

/-- It does not matter whether items are picked before or after repetitions are left out. -/
theorem filter_eraseDups (keep : α → Bool) (xs : List α) :
    xs.eraseDups.filter keep = (xs.filter keep).eraseDups := by
  -- The last item is a repetition in both cases or in neither.
  induction xs using List.reverseRecOn with
  | nil => rfl
  | append_singleton xs x ih =>
    rw [List.filter_append, List.eraseDups_append, List.eraseDups_append, List.filter_append, ih]
    by_cases kept : keep x <;> by_cases seen : x ∈ xs <;>
      simp [List.cons_removeAll, List.eraseDups_cons, kept, seen]

end Repetitions

namespace Model

/-- A relationship inherits a file if it declares none and its two nodes declare the same one, other
than the implicit one. -/
def InheritsFile (m : Model) (r : Relationship) : Prop :=
  r.sourceName = none ∧ ∃ source target file, m.endpoints r = .ok (source, target) ∧
    source.sourceName = some file ∧ target.sourceName = some file ∧ file ≠ implicitSource

/-- The files of the nodes and of some relationships, where each is read from the file it declares
or else from the implicit one. -/
def ownFiles (m : Model) (relationships : List Relationship) : List String :=
  m.nodes.map (·.fileOr implicitSource) ++ relationships.map (·.element.fileOr implicitSource)

/-- The files that a model names are those that its elements declare or else the implicit one. -/
theorem sourceNames_eq (m : Model) :
    m.sourceNames = (m.ownFiles m.relationships).eraseDups := by
  simp only [sourceNames, elements, ownFiles, List.map_append, List.map_map]
  rfl

/-- The file that a relationship is read from: its own one, unless it inherits that of a node in
place of the implicit one. -/
def ReadsFile (m : Model) (r : Relationship) (file : String) : Prop :=
  (m.InheritsFile r ∧ r.element.fileOr implicitSource = implicitSource ∧
      file ∈ m.nodes.map (·.fileOr implicitSource)) ∨
    (¬ m.InheritsFile r ∧ r.element.fileOr implicitSource = file)

/-- A relationship that declares no file has the implicit one for its own. -/
theorem ownFile_of_undeclared {r : Relationship} (undeclared : r.sourceName = none) :
    r.element.fileOr implicitSource = implicitSource := by
  rw [Relationship.element, Element.fileOr, undeclared, Option.getD_none]

/-- Nodes that share a file which is not inherited are read from the implicit one. -/
theorem file_of_not_inheritsFile {m : Model} {r : Relationship} {source target : Node}
    (other : ¬ m.InheritsFile r) (undeclared : r.sourceName = none)
    (ends : m.endpoints r = .ok (source, target))
    (shared : source.fileOr implicitSource = target.fileOr implicitSource) :
    source.fileOr implicitSource = implicitSource := by
  unfold Node.fileOr at shared ⊢
  by_contra apart
  -- Where the file is not the implicit one both nodes declare it.
  cases atSource : source.sourceName with
  | none => simp [atSource] at apart
  | some file =>
    cases atTarget : target.sourceName with
    | none =>
      rw [atSource, atTarget, Option.getD_none] at shared
      exact apart (by rw [atSource, shared])
    | some same =>
      simp only [atSource, atTarget, Option.getD_some] at shared apart
      exact other ⟨undeclared, source, target, file, ends, atSource, shared ▸ atTarget, apart⟩

/-- The rows of a relationship are in the file that it is read from. -/
theorem readsFile_rowFile {m : Model} {r : Relationship} {source target : Node}
    (ends : m.endpoints r = .ok (source, target)) :
    m.ReadsFile r (r.plan source target implicitSource).rowFile := by
  rw [Relationship.plan_rowFile]
  by_cases inherits : m.InheritsFile r
  · obtain ⟨undeclared, _, _, file, resolved, atSource, atTarget, _⟩ := id inherits
    cases ends.symm.trans resolved
    have shared : source.fileOr implicitSource = target.fileOr implicitSource := by
      rw [Node.fileOr, Node.fileOr, atSource, atTarget]
    -- What is inherited is the file of the source node, and this is a node of the model.
    have member := (node?_eq_some (endpoints_eq_ok_iff.mp ends).1).1
    rw [Relationship.rowFile_of_shared undeclared shared]
    exact .inl ⟨inherits, ownFile_of_undeclared undeclared, List.mem_map_of_mem member⟩
  · refine .inr ⟨inherits, ?_⟩
    -- If nothing is inherited, the file is declared, or else it is the implicit one.
    cases declared : r.sourceName with
    | some file =>
      rw [Relationship.rowFile_of_declared declared, Relationship.element, Element.fileOr, declared,
        Option.getD_some]
    | none =>
      rw [ownFile_of_undeclared declared]
      by_cases shared : source.fileOr implicitSource = target.fileOr implicitSource
      · rw [Relationship.rowFile_of_shared declared shared]
        exact (file_of_not_inheritsFile inherits declared ends shared).symm
      · rw [Relationship.rowFile_of_apart declared shared]

section Reading

variable {m : Model} {relationships : List Relationship} {files front : List String}

/-- Behind the implicit file and those of the nodes, it makes no difference that a relationship
inherits a file. -/
theorem eraseDups_of_implicit (read : List.Forall₂ m.ReadsFile relationships files)
    (nodes : ∀ file ∈ m.nodes.map (·.fileOr implicitSource), file ∈ front)
    (named : implicitSource ∈ front) :
    (front ++ relationships.map (·.element.fileOr implicitSource)).eraseDups =
      (front ++ files).eraseDups := by
  refine eraseDups_congr (List.forall₂_map_left_iff.mpr (read.imp fun r file placed => ?_))
  rcases placed with ⟨_, own, member⟩ | ⟨_, same⟩
  · exact .inr ⟨by rwa [own], nodes file member⟩
  · exact .inl same

/-- Behind the files of the nodes, it makes no difference that relationships inherit a file if,
wherever one does, the implicit file stands in front or comes next. -/
theorem eraseDups_of_placed (read : List.Forall₂ m.ReadsFile relationships files)
    (nodes : ∀ file ∈ m.nodes.map (·.fileOr implicitSource), file ∈ front)
    (placed : ∀ before r after, relationships = before ++ r :: after → m.InheritsFile r →
      (front ++ before.map (·.element.fileOr implicitSource) ++ [implicitSource]).eraseDups <+:
        (front ++ files).eraseDups) :
    (front ++ relationships.map (·.element.fileOr implicitSource)).eraseDups =
      (front ++ files).eraseDups := by
  -- The files in front grow up to the first relationship that inherits one, which decides.
  induction read generalizing front with
  | nil => rfl
  | @cons r file relationships files first others ih =>
    have kept : ∀ (last : String), ∀ file ∈ m.nodes.map (·.fileOr implicitSource),
        file ∈ front ++ [last] :=
      fun last file member => List.mem_append_left _ (nodes file member)
    rw [List.map_cons]
    rcases first with ⟨inherits, own, member⟩ | ⟨_, rfl⟩
    · -- What is inherited is in front already, so all that counts is the implicit file.
      have seen := nodes file member
      have next := placed [] r relationships rfl inherits
      rw [List.map_nil, List.append_nil, eraseDups_append_cons seen] at next
      rw [own, List.append_cons, eraseDups_of_implicit others (kept _) (by simp),
        ← List.append_cons, eraseDups_append_cons_iff.mpr next, eraseDups_append_cons seen]
    · rw [List.append_cons _ _ files, List.append_cons]
      refine ih (kept _) ?_
      intro before s after split inherits
      have later := placed (r :: before) s after (by rw [split, List.cons_append]) inherits
      simpa using later

end Reading

end Model

namespace Compiler

variable {c : Compiler} {statements : List Statement}

/-- Statements that a compiler writes are those of its model. -/
theorem statesModel_of_unwindStatements (written : c.unwindStatements = .ok statements) :
    c.StatesModel statements := by
  -- Nothing is written unless the check is passed.
  have read := written
  rw [unwindStatements_eq] at read
  obtain ⟨loads, built, _⟩ := map_eq_ok_iff.mp read
  obtain ⟨⟨others, again, states⟩, _⟩ := statements_of_check (loads_eq_ok_iff.mp built).1
  obtain rfl := Except.ok.inj (written.symm.trans again)
  exact states

/-- Where undeclared files are the implicit one, the files of the nodes are read first, and then
that of each relationship. -/
theorem sourceNames_of_unwindStatements (implicit : c.options.sourceName = implicitSource)
    (written : c.unwindStatements = .ok statements) :
    ∃ files, List.Forall₂ c.model.ReadsFile c.model.relationships files ∧
      statements.map Statement.sourceName =
        c.model.nodes.map (·.fileOr implicitSource) ++ files := by
  obtain ⟨nodes, relationships, rfl, ofNodes, ofRelationships⟩ :=
    statesModel_of_unwindStatements written
  -- The statements of nodes come first, and every statement names the file that it reads.
  refine ⟨relationships.map Statement.sourceName, ?_, ?_⟩
  · refine List.forall₂_map_right_iff.mpr (ofRelationships.imp ?_)
    rintro r s ⟨source, target, ends, _, rows⟩
    rw [rows, relationshipSource, implicit]
    exact Model.readsFile_rowFile ends
  · rw [List.map_append]
    congr 1
    refine (map_eq_map_of_forall₂ ofNodes fun n s ⟨_, rows⟩ => ?_).symm
    rw [rows, nodeSource, implicit]

/-- But for the implicit file, a model names the files that its statements read, in their order. The
implicit one is right exactly if, wherever a file is inherited, the files in front and then it are
read first. -/
theorem sourceNames_eq_iff (implicit : c.options.sourceName = implicitSource)
    (written : c.unwindStatements = .ok statements) :
    c.model.sourceNames.filter (· != implicitSource) =
        (statements.map Statement.sourceName).eraseDups.filter (· != implicitSource) ∧
      (c.model.sourceNames = (statements.map Statement.sourceName).eraseDups ↔
        ∀ before r after, c.model.relationships = before ++ r :: after →
          c.model.InheritsFile r →
          (c.model.ownFiles before ++ [implicitSource]).eraseDups <+:
            (statements.map Statement.sourceName).eraseDups) := by
  obtain ⟨files, read, names⟩ := sourceNames_of_unwindStatements implicit written
  rw [names, Model.sourceNames_eq]
  refine ⟨?_, ?_, ?_⟩
  · -- With the implicit file in front of both lists, they are the same.
    have behind : ∀ file ∈ c.model.nodes.map (·.fileOr implicitSource),
        file ∈ implicitSource :: c.model.nodes.map (·.fileOr implicitSource) :=
      fun file member => List.mem_cons_of_mem _ member
    have same := Model.eraseDups_of_implicit read behind List.mem_cons_self
    rw [List.cons_append, List.cons_append, List.eraseDups_cons, List.eraseDups_cons] at same
    rw [filter_eraseDups, filter_eraseDups]
    exact List.tail_eq_of_cons_eq same
  · -- A relationship that inherits its file is named with the implicit one.
    intro same before r after split inherits
    have parts : c.model.ownFiles c.model.relationships = c.model.ownFiles before ++
        [implicitSource] ++ after.map (·.element.fileOr implicitSource) := by
      simp [Model.ownFiles, split, Model.ownFile_of_undeclared inherits.1]
    rw [← same, parts]
    exact eraseDups_prefix_append _ _
  · exact Model.eraseDups_of_placed read fun _ member => member

/-- Owners and their pets in one file, behind other nodes, where undeclared files are the implicit
one. -/
def shelter (others : List Node) : Compiler where
  model := {
    nodes := others ++ [
      { label := "Owner", sourceName := some "owners.csv",
        properties := [{ name := "name", column := "owner", isUnique := true }] },
      { label := "Pet", sourceName := some "owners.csv",
        properties := [{ name := "id", column := "chip", isUnique := true }] }]
    relationships := [{ type := "HAS_PET", source := "Owner", target := "Pet" }] }
  options := { sourceName := implicitSource }
  valid := by decide

/-- Rooms, which declare no file. -/
def room : Node where
  label := "Room"
  properties := [{ name := "number", column := "room", isUnique := true }]

/-- As the implicit file is read for rooms, it does no harm that it is named for pets as well. -/
theorem sourceNames_eq_iff_rooms :
    (shelter [room]).options.sourceName = implicitSource ∧
      ∃ statements, (shelter [room]).unwindStatements = .ok statements ∧
        (shelter [room]).model.sourceNames =
          (statements.map Statement.sourceName).eraseDups := by
  have compiled : ∃ statements, (shelter [room]).unwindStatements = .ok statements := ⟨_, rfl⟩
  obtain ⟨statements, written⟩ := compiled
  refine ⟨rfl, statements, written, (sourceNames_eq_iff rfl written).2.mpr ?_⟩
  intro before r after split _
  have read : (shelter [room]).unwindStatements.toOption.map (List.map Statement.sourceName) =
      some ["file", "owners.csv", "owners.csv", "owners.csv"] := rfl
  rw [written] at read
  rw [Option.some.inj read]
  -- There is one relationship, and nothing in front of it.
  match before, split with
  | [], _ => decide
  | _ :: _, split => simp [shelter] at split

/-- Without rooms, the implicit file is named for pets, but no statement reads it. -/
theorem sourceNames_unread :
    (shelter []).options.sourceName = implicitSource ∧ (shelter []).files = none ∧
      ∃ statements, (shelter []).unwindStatements = .ok statements ∧
        (shelter []).model.sourceNames =
          (statements.map Statement.sourceName).eraseDups ++ [implicitSource] ∧
        (shelter []).model.sourceNames ≠ (statements.map Statement.sourceName).eraseDups :=
  ⟨rfl, rfl, _, rfl, by decide, by decide⟩

end Compiler

end GraphLoad
