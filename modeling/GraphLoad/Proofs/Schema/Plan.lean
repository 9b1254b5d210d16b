import GraphLoad.Proofs.Traversal
import GraphLoad.Schema.Resolve
import Mathlib.Data.List.Nodup

/-! Relationships: the nodes they join, the file with their rows, and the role each node is read in
there. -/

namespace GraphLoad

namespace Model

/-- A node found by its label is a node of the model with this label. -/
theorem node?_eq_some {m : Model} {label : String} {n : Node}
    (found : m.node? label = some n) : n ∈ m.nodes ∧ n.label = label := by
  have named := List.find?_some found
  exact ⟨List.mem_of_find?_eq_some found, by simpa using named⟩

/-- A label leads to a node exactly if some node has it. -/
theorem isSome_node?_iff {m : Model} {label : String} :
    (m.node? label).isSome = true ↔ label ∈ m.nodeLabels := by
  simp [node?, nodeLabels, List.find?_isSome]

/-- Where labels are distinct, a label leads to a node exactly if that node has it, wherever it is
declared. -/
theorem node?_eq_some_iff {m : Model} (distinct : m.nodeLabels.Nodup) {label : String} {n : Node} :
    m.node? label = some n ↔ n ∈ m.nodes ∧ n.label = label := by
  refine ⟨node?_eq_some, ?_⟩
  rintro ⟨member, rfl⟩
  -- Some node is found under the label, and no other node has it.
  have present := isSome_node?_iff.mpr (List.mem_map_of_mem (f := Node.label) member)
  obtain ⟨other, found⟩ := Option.isSome_iff_exists.mp present
  obtain ⟨otherMember, named⟩ := node?_eq_some found
  rw [found, List.inj_on_of_nodup_map distinct otherMember member named]

/-- An end resolves to the node with its label. -/
theorem endpoint_eq_ok_iff {m : Model} {r : Relationship} {e : Endpoint} {n : Node} :
    m.endpoint r e = .ok n ↔ m.node? (r.label e) = some n := by
  unfold endpoint
  cases m.node? (r.label e) <;> simp

/-- The ends resolve together exactly when each does. -/
theorem endpoints_eq_ok_iff {m : Model} {r : Relationship} {source target : Node} :
    m.endpoints r = .ok (source, target) ↔
      m.node? r.source = some source ∧ m.node? r.target = some target := by
  -- The source is looked up first, and then the target.
  simp only [endpoints, bind_eq_ok_iff, endpoint_eq_ok_iff, Pure.pure, Except.pure,
    Except.ok.injEq, Prod.mk.injEq, Relationship.label]
  constructor
  · rintro ⟨_, first, _, second, rfl, rfl⟩
    exact ⟨first, second⟩
  · rintro ⟨first, second⟩
    exact ⟨source, first, target, second, rfl, rfl⟩

end Model

namespace Relationship

variable {r : Relationship} {source target : Node} {default : String}

/-- The row file of a plan is the one decided on. -/
theorem plan_rowFile :
    (r.plan source target default).rowFile = (r.rowFile source target default).1 :=
  rfl

/-- The origin of a plan's row file is the one decided on. -/
theorem plan_origin :
    (r.plan source target default).origin = (r.rowFile source target default).2 :=
  rfl

/-- A declared file holds the rows. -/
theorem rowFile_of_declared {name : String} (declared : r.sourceName = some name) :
    r.rowFile source target default = (name, .declared) := by
  simp [rowFile, declared]

/-- Without a declaration the rows are in the file that both nodes are read from. -/
theorem rowFile_of_shared (undeclared : r.sourceName = none)
    (shared : source.fileOr default = target.fileOr default) :
    r.rowFile source target default =
      (source.fileOr default, if source.sourceName.isSome then .inherited else .assumed) := by
  simp [rowFile, undeclared, shared]

/-- Without a declaration and without a shared file the rows are taken from the default file. -/
theorem rowFile_of_apart (undeclared : r.sourceName = none)
    (apart : source.fileOr default ≠ target.fileOr default) :
    r.rowFile source target default = (default, .ambiguous) := by
  simp [rowFile, undeclared, apart]

/-- The file of the node at an end. -/
def endFile (source target : Node) (default : String) : Endpoint → String
  | .source => source.fileOr default
  | .target => target.fileOr default

/-- Between two labels a node is read by its own columns exactly when the rows are in its file. -/
theorem plan_role_of_labels (labels : r.source ≠ r.target) (source target : Node) (default : String)
    (e : Endpoint) :
    (r.plan source target default).role e =
      if endFile source target default e = (r.plan source target default).rowFile then .primary
      else .secondary := by
  -- Only the target of a self-relationship is read in another role than its file asks for.
  have between : r.isSelfRelationship = false := beq_false_of_ne labels
  cases e <;> simp [plan, EndpointPlan.role, endFile, between]

end Relationship

end GraphLoad
