import GraphLoad.Proofs.Cypher.Body
import GraphLoad.Proofs.Cypher.Unambiguous
import GraphLoad.Proofs.Text.Count

/-! Equal texts of statements that load from files come from equal files, options and work. -/

namespace GraphLoad.Cypher

/-- The text of a statement over a file: the file, an indented line for each line of the body, and
the size of a batch. -/
theorem toList_intercalate_bulkLines (lines : List String) (file : String) (method : Submission)
    (batchSize : UInt32) :
    ("\n".intercalate (bulkLines lines file method batchSize)).toList =
      (submissionMark method).toList ++ ("LOAD CSV WITH HEADERS FROM ".toList ++
        ((fileLiteral file).toList ++ (" AS row\nCALL \x7b\n    WITH row".toList ++
          (lines.flatMap (fun line => "\n    ".toList ++ line.toList) ++
            ("\n\x7d".toList ++ (" IN TRANSACTIONS OF ".toList ++
              ((toString batchSize.toNat).toList ++ " ROWS;".toList))))))) := by
  -- Each line but the first is the line break in front of it and its text.
  simp only [bulkLines, List.cons_append, String.toList_intercalate, List.map_cons,
    intercalate_cons_eq]
  simp [List.flatMap_map, Function.comp_def]

/-- The text of a bulk load: the file, a line for each clause, and the size of a batch. -/
theorem toList_bulkLines (body : List Clause) (file : String) (method : Submission)
    (batchSize : UInt32) :
    ("\n".intercalate (bulkLines (body.map Clause.text) file method batchSize)).toList =
      (submissionMark method).toList ++ ("LOAD CSV WITH HEADERS FROM ".toList ++
        ((fileLiteral file).toList ++ (" AS row\nCALL \x7b\n    WITH row".toList ++
          (body.flatMap (fun c => "\n    ".toList ++ c.text.toList) ++
            ("\n\x7d".toList ++ (" IN TRANSACTIONS OF ".toList ++
              ((toString batchSize.toNat).toList ++ " ROWS;".toList))))))) := by
  rw [toList_intercalate_bulkLines, List.flatMap_map]

/-- The lines of a statement over a file but the last, which names the size of a batch. -/
def bulkOpening (body : List String) (file : String) (method : Submission) : String :=
  "\n".intercalate
    ([submissionMark method ++ "LOAD CSV WITH HEADERS FROM " ++ fileLiteral file ++ " AS row",
      "CALL \x7b", "    WITH row"] ++ body.map ("    " ++ ·))

/-- A statement over a file ends with the size of a batch and a semicolon. -/
theorem intercalate_bulkLines (body : List String) (file : String) (method : Submission)
    (batchSize : UInt32) :
    "\n".intercalate (bulkLines body file method batchSize) =
      bulkOpening body file method ++ "\n\x7d IN TRANSACTIONS OF " ++ toString batchSize.toNat
        ++ " ROWS;" := by
  unfold bulkLines bulkOpening
  rw [String.intercalate_append_of_ne_nil (by simp) (by simp), String.intercalate_singleton]
  simp only [String.append_assoc]
  rfl

/-- The lines of a body are unambiguous before the brace that closes it. -/
theorem unambiguous_body :
    Unambiguous (fun body : List Clause => ∀ c ∈ body, c.WellFormed)
      (fun rest => ∃ more, rest = "\n\x7d".toList ++ more)
      (·.flatMap fun c => "\n    ".toList ++ c.text.toList) := by
  have line : Unambiguous Clause.WellFormed (fun rest => rest.head? = some '\n')
      fun c => "\n    ".toList ++ c.text.toList := by
    intro c d s t first second before after same
    rw [List.append_assoc, List.append_assoc] at same
    exact unambiguous_clause first second before after (List.append_cancel_left same)
  refine line.flatMap (fun _ _ => rfl) ?_ ?_
  · rintro _ ⟨more, rfl⟩
    rfl
  · -- A line is indented, and the closing brace is not.
    rintro c s _ ⟨more, rfl⟩ same
    simp at same

/-- The text of a number tells the number. -/
theorem toList_toString_inj {m n : Nat} (same : (toString m).toList = (toString n).toList) :
    m = n := by
  have digits : Nat.toDigits 10 m = Nat.toDigits 10 n := by
    rwa [toList_toString, toList_toString] at same
  rw [← Nat.ofDigitChars_toDigits (b := 10) (n := m) (by decide) (by decide), digits,
    Nat.ofDigitChars_toDigits (by decide) (by decide)]

/-- Statements over files with one text do the same work on the rows of the same file, and are
submitted in the same way. -/
theorem bulkText_inj {body other : List Clause} {file otherFile : String}
    {method otherMethod : Submission} {size otherSize : UInt32} {text : String}
    (left : ∀ c ∈ body, c.WellFormed) (right : ∀ c ∈ other, c.WellFormed)
    (first : bulkText (body.map Clause.text) file method size = .ok text)
    (second : bulkText (other.map Clause.text) otherFile otherMethod otherSize = .ok text) :
    body = other ∧ file = otherFile ∧ method = otherMethod ∧ size = otherSize := by
  -- There is a text only for a batch with rows, and it is made of the lines.
  have written : ∀ {lines : List String} {f : String} {m : Submission} {z : UInt32},
      bulkText lines f m z = .ok text → "\n".intercalate (bulkLines lines f m z) = text := by
    intro lines f m z built
    unfold bulkText at built
    split at built
    · cases built
    · exact Except.ok.inj built
  have same := congrArg String.toList ((written first).trans (written second).symm)
  rw [toList_bulkLines, toList_bulkLines] at same
  -- The text is read from the front: mark, file, body, and at last the size of a batch.
  obtain rfl : method = otherMethod := by
    cases method <;> cases otherMethod
    · rfl
    · simp [submissionMark] at same
    · simp [submissionMark] at same
    · rfl
  have same := List.append_cancel_left (List.append_cancel_left same)
  obtain ⟨rfl, afterFile⟩ := unambiguous_file trivial trivial trivial trivial same
  obtain ⟨rfl, afterBody⟩ := unambiguous_body left right ⟨_, rfl⟩ ⟨_, rfl⟩
    (List.append_cancel_left afterFile)
  have sizes := List.append_cancel_right
    (List.append_cancel_left (List.append_cancel_left afterBody))
  exact ⟨rfl, rfl, rfl, UInt32.toNat_inj.mp (toList_toString_inj sizes)⟩

/-- The clause that sets the descriptive properties is well formed, if it is there. -/
theorem wellFormed_setClauses {var : String} (word : IsWord var) (e : Element) (strict : Bool) :
    ∀ c ∈ setClauses var e strict, c.WellFormed := by
  intro c member
  unfold setClauses at member
  split at member
  · cases member
  · -- The clause is there only if something is set.
    rename_i present
    obtain rfl := List.mem_singleton.mp member
    exact ⟨word, by simpa [bindings] using present⟩

/-- The work on a row of a node is well formed. -/
theorem wellFormed_nodeBody {n : Node} {strict : Bool} {body : List Clause}
    (written : nodeBody n strict = .ok body) : ∀ c ∈ body, c.WellFormed := by
  obtain ⟨identified, rfl⟩ := nodeBody_eq_ok_iff.mp written
  have word : IsWord nodeVar := by decide
  rw [List.forall_mem_cons]
  exact ⟨⟨word, by simpa [bindings] using identified⟩, wellFormed_setClauses word _ _⟩

/-- The work on a row of a relationship is well formed. -/
theorem wellFormed_relationshipBody {r : Relationship} {source target : Node} {default : String}
    {strict : Bool} {body : List Clause}
    (written : relationshipBody r source target default strict = .ok body) :
    ∀ c ∈ body, c.WellFormed := by
  obtain ⟨_, _, sourceIdentified, targetIdentified, rfl⟩ := relationshipBody_eq_ok_iff.mp written
  have word : ∀ e : Endpoint, IsWord e.name := by
    intro e
    cases e <;> decide
  have pattern : ∀ (e : Endpoint) (n : Node) (role : ColumnRole), n.identifying ≠ [] →
      NodePattern.WellFormed ⟨e.name, n.label, bindings n.identifying role strict⟩ :=
    fun e n role identified => ⟨word e, by simpa [bindings] using identified⟩
  have found : ∀ c ∈ findClauses (r.plan source target default) source target strict,
      c.WellFormed := by
    -- Both layouts hold the same two patterns.
    have first := pattern .source source (r.plan source target default).sourceRole sourceIdentified
    have second := pattern .target target (r.plan source target default).targetRole targetIdentified
    unfold findClauses
    cases (r.plan source target default).layout <;>
      simp [Clause.WellFormed, first, second]
  -- Between finding and setting stands the merge, which may be of any form.
  rw [List.forall_mem_append, List.forall_mem_cons]
  exact ⟨found, trivial, wellFormed_setClauses (by decide) _ _⟩

/-- Clauses that set descriptive properties tell what is set. -/
theorem setClauses_inj {var : String} {e f : Element} {strict : Bool}
    (same : setClauses var e strict = setClauses var f strict) :
    bindings e.descriptive .primary strict = bindings f.descriptive .primary strict := by
  -- There is a clause exactly if something is set, so it is missing on both sides or on neither.
  by_cases none_ : e.descriptive = [] <;> by_cases otherNone : f.descriptive = []
  · rw [none_, otherNone]
  · simp [setClauses, none_, otherNone] at same
  · simp [setClauses, none_, otherNone] at same
  · simpa [setClauses, none_, otherNone] using same

/-- The start of the work on a relationship tells how its nodes are found. -/
theorem findClauses_inj {plan other : EndpointPlan} {source target otherSource otherTarget : Node}
    {strict : Bool} {type otherType : String} {keys otherKeys : List Binding}
    {rest others : List Clause}
    (same : findClauses plan source target strict ++ .mergeRelationship type keys :: rest =
      findClauses other otherSource otherTarget strict
        ++ .mergeRelationship otherType otherKeys :: others) :
    plan.layout = other.layout ∧
      (source.label = otherSource.label ∧
        bindings source.identifying plan.sourceRole strict =
          bindings otherSource.identifying other.sourceRole strict) ∧
      (target.label = otherTarget.label ∧
        bindings target.identifying plan.targetRole strict =
          bindings otherTarget.identifying other.targetRole strict) ∧
      type = otherType ∧ keys = otherKeys ∧ rest = others := by
  -- One clause finds two nodes, or two clauses one each, so the first clause tells the layout.
  unfold findClauses at same
  cases layout : plan.layout <;> cases otherLayout : other.layout <;>
    simp [layout, otherLayout] at same
  · simp [same]
  · simp [same]

/-- What a statement that loads a kind of node from a file is written for. -/
structure NodeBulk where
  /-- The kind of node. -/
  node : Node
  /-- The file with its rows. -/
  file : String
  /-- How the statement is submitted. -/
  method : Submission
  /-- The number of rows in a transaction. -/
  batchSize : UInt32

/-- The statement. -/
def NodeBulk.text (l : NodeBulk) (strict : Bool) : Except CompileError String :=
  nodeBulkText l.node l.file l.method l.batchSize strict

/-- What a statement that loads a kind of relationship from a file is written for. -/
structure RelationshipBulk where
  /-- The kind of relationship. -/
  relationship : Relationship
  /-- The node it starts at. -/
  source : Node
  /-- The node it ends at. -/
  target : Node
  /-- The file with its rows. -/
  file : String
  /-- How the statement is submitted. -/
  method : Submission
  /-- The number of rows in a transaction. -/
  batchSize : UInt32

/-- The statement. -/
def RelationshipBulk.text (l : RelationshipBulk) (strict : Bool) : Except CompileError String :=
  relationshipBulkText l.relationship l.source l.target l.file l.method l.batchSize strict

/-- How the nodes are found in the rows. -/
def RelationshipBulk.plan (l : RelationshipBulk) : EndpointPlan :=
  l.relationship.plan l.source l.target implicitSource

/-- A statement is written only if there is work on a row. -/
theorem NodeBulk.text_eq_ok_iff {l : NodeBulk} {strict : Bool} {text : String} :
    l.text strict = .ok text ↔ ∃ body, nodeBody l.node strict = .ok body ∧
      bulkText (body.map Clause.text) l.file l.method l.batchSize = .ok text :=
  bind_eq_ok_iff

/-- A statement is written only if there is work on a row. -/
theorem RelationshipBulk.text_eq_ok_iff {l : RelationshipBulk} {strict : Bool} {text : String} :
    l.text strict = .ok text ↔
      ∃ body, relationshipBody l.relationship l.source l.target implicitSource strict = .ok body ∧
        bulkText (body.map Clause.text) l.file l.method l.batchSize = .ok text :=
  bind_eq_ok_iff

/-- Statements over files with one text, under the same typing, load the same: nodes of one label,
or relationships of one type between the same labels, with the same properties from the same columns
of one file. No statement loads both. -/
theorem bulkTexts_unambiguous :
    (∀ (strict : Bool) (first second : NodeBulk) (text : String),
      first.text strict = .ok text → second.text strict = .ok text →
        first.node.label = second.node.label ∧
        first.file = second.file ∧
        first.method = second.method ∧
        first.batchSize = second.batchSize ∧
        bindings first.node.identifying .primary strict =
          bindings second.node.identifying .primary strict ∧
        bindings first.node.element.descriptive .primary strict =
          bindings second.node.element.descriptive .primary strict) ∧
    (∀ (strict : Bool) (first second : RelationshipBulk) (text : String),
      first.text strict = .ok text → second.text strict = .ok text →
        first.relationship.type = second.relationship.type ∧
        first.plan.layout = second.plan.layout ∧
        first.source.label = second.source.label ∧
        first.target.label = second.target.label ∧
        bindings first.source.identifying first.plan.sourceRole strict =
          bindings second.source.identifying second.plan.sourceRole strict ∧
        bindings first.target.identifying first.plan.targetRole strict =
          bindings second.target.identifying second.plan.targetRole strict ∧
        bindings first.relationship.element.identifying .primary strict =
          bindings second.relationship.element.identifying .primary strict ∧
        bindings first.relationship.element.descriptive .primary strict =
          bindings second.relationship.element.descriptive .primary strict ∧
        first.file = second.file ∧
        first.method = second.method ∧
        first.batchSize = second.batchSize) ∧
    ∀ (strict other : Bool) (n : NodeBulk) (r : RelationshipBulk) (text : String),
      n.text strict = .ok text → r.text other ≠ .ok text := by
  refine ⟨?_, ?_, ?_⟩
  · intro strict first second text written again
    obtain ⟨body, work, wrapped⟩ := NodeBulk.text_eq_ok_iff.mp written
    obtain ⟨other, otherWork, otherWrapped⟩ := NodeBulk.text_eq_ok_iff.mp again
    obtain ⟨rfl, sameFile, sameMethod, sameSize⟩ := bulkText_inj (wellFormed_nodeBody work)
      (wellFormed_nodeBody otherWork) wrapped otherWrapped
    obtain ⟨_, rfl⟩ := nodeBody_eq_ok_iff.mp work
    obtain ⟨_, sameBody⟩ := nodeBody_eq_ok_iff.mp otherWork
    -- One merge and the clauses that set properties make up the work on a node.
    obtain ⟨sameMerge, sameSet⟩ := List.cons.inj sameBody
    obtain ⟨_, sameLabel, sameKeys⟩ := NodePattern.mk.inj (Clause.mergeNode.inj sameMerge)
    exact ⟨sameLabel, sameFile, sameMethod, sameSize, sameKeys, setClauses_inj sameSet⟩
  · intro strict first second text written again
    obtain ⟨body, work, wrapped⟩ := RelationshipBulk.text_eq_ok_iff.mp written
    obtain ⟨other, otherWork, otherWrapped⟩ := RelationshipBulk.text_eq_ok_iff.mp again
    obtain ⟨rfl, sameFile, sameMethod, sameSize⟩ := bulkText_inj (wellFormed_relationshipBody work)
      (wellFormed_relationshipBody otherWork) wrapped otherWrapped
    obtain ⟨_, _, _, _, rfl⟩ := relationshipBody_eq_ok_iff.mp work
    obtain ⟨_, _, _, _, sameBody⟩ := relationshipBody_eq_ok_iff.mp otherWork
    obtain ⟨sameLayout, ⟨sameSource, sourceKeys⟩, ⟨sameTarget, targetKeys⟩, sameType, sameKeys,
      sameSet⟩ := findClauses_inj sameBody
    exact ⟨sameType, sameLayout, sameSource, sameTarget, sourceKeys, targetKeys, sameKeys,
      setClauses_inj sameSet, sameFile, sameMethod, sameSize⟩
  · intro strict other n r text written again
    obtain ⟨body, work, wrapped⟩ := NodeBulk.text_eq_ok_iff.mp written
    obtain ⟨otherBody, otherWork, otherWrapped⟩ := RelationshipBulk.text_eq_ok_iff.mp again
    obtain ⟨rfl, _⟩ := bulkText_inj (wellFormed_nodeBody work)
      (wellFormed_relationshipBody otherWork) wrapped otherWrapped
    obtain ⟨_, rfl⟩ := nodeBody_eq_ok_iff.mp work
    obtain ⟨_, _, _, _, sameBody⟩ := relationshipBody_eq_ok_iff.mp otherWork
    -- The work on a node starts with a merge, that on a relationship with finding its nodes.
    unfold findClauses at sameBody
    split at sameBody <;> simp at sameBody

/-- Pets, found by their chips. -/
def chippedPets (aliasColumn : Option String) : NodeBulk where
  node := {
    label := "Pet"
    properties := [
      { name := "id", column := "chip`; no", aliasColumn, isUnique := true },
      { name := "age", column := "age", valueType := .integer }] }
  file := "it's.csv"
  method := .browser
  batchSize := 50

/-- Owners and their pets, found by names and chips in one file; `known` is what else is known of
owners. -/
def petOwners (known : List Property) : RelationshipBulk where
  relationship := {
    type := "HAS\x60PET"
    source := "Person"
    target := "Pet"
    properties := [{ name := "since", column := "since, \x7b", valueType := .date }] }
  source := {
    label := "Person"
    properties := { name := "name", column := "own\ner", isUnique := true } :: known }
  target := (chippedPets none).node
  file := "it's.csv"
  method := .api
  batchSize := 50

/-- Kinds of pet that differ in an alias have one statement, and so have kinds of owners that differ
in what is not read where their pets are. No statement about pets is one about owners. -/
theorem bulkTexts_unambiguous_pets :
    ∃ pets owners, (chippedPets none).text true = .ok pets ∧
      (chippedPets (some "tag")).text true = .ok pets ∧
      (petOwners []).text true = .ok owners ∧
      (petOwners [{ name := "age", column := "age" }]).text true = .ok owners ∧
      bindings (chippedPets none).node.identifying .primary true =
        bindings (chippedPets (some "tag")).node.identifying .primary true ∧
      (petOwners []).plan.layout = (petOwners [{ name := "age", column := "age" }]).plan.layout ∧
      (petOwners []).text true ≠ .ok pets := by
  refine ⟨_, _, rfl, rfl, rfl, rfl, ?_, ?_, ?_⟩
  · exact (bulkTexts_unambiguous.1 true _ _ _ rfl rfl).2.2.2.2.1
  · exact (bulkTexts_unambiguous.2.1 true _ _ _ rfl rfl).2.1
  · exact bulkTexts_unambiguous.2.2 true true (chippedPets none) _ _ rfl

end GraphLoad.Cypher
