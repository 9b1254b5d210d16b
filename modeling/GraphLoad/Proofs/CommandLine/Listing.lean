import GraphLoad.Proofs.CommandLine.Layers
import GraphLoad.Proofs.Cypher.Comment
import GraphLoad.Proofs.Loading.ScriptSplit

/-! Listings of statements without their comments: just the statements are left, unless a name leads
out of the header that it stands in. -/

namespace GraphLoad

open Cypher Statement

/-- Texts put in front of joined ones add their lengths. -/
theorem length_intercalate_append {α : Type} (separator : String) (front back : α → String)
    (items : List α) :
    (separator.intercalate (items.map fun item => front item ++ back item)).length =
      (items.flatMap fun item => (front item).toList).length +
        (separator.intercalate (items.map back)).length := by
  induction items with
  | nil => rfl
  | cons item others ih =>
    -- The last item has no separator behind it.
    by_cases alone : others = []
    · simp [alone, String.length_toList]
    · have many : ∀ f : α → String, others.map f ≠ [] := fun f => by simpa using alone
      rw [List.map_cons, List.map_cons, String.intercalate_cons_of_ne_nil (many _),
        String.intercalate_cons_of_ne_nil (many _), List.flatMap_cons]
      simp only [String.length_append, List.length_append, String.length_toList, ih]
      omega

/-- Texts put in front of joined ones are not seen exactly if they are empty. -/
theorem intercalate_append_eq_iff {α : Type} {separator : String} {front back : α → String}
    {items : List α} :
    separator.intercalate (items.map fun item => front item ++ back item) =
      separator.intercalate (items.map back) ↔ ∀ item ∈ items, front item = "" := by
  constructor
  · intro same
    -- Equal texts are equally long, which leaves no room for anything in front.
    have lengths := length_intercalate_append separator front back items
    rw [same] at lengths
    have added : (items.flatMap fun item => (front item).toList).length = 0 := by omega
    rw [List.length_eq_zero_iff, List.flatMap_eq_nil_iff] at added
    exact fun item member => String.toList_eq_nil_iff.mp (added item member)
  · intro empty
    congr 1
    refine List.map_congr_left fun item member => ?_
    rw [empty item member, String.empty_append]

namespace Statement

variable {statements : List Statement}

/-- Without the comments, each inert statement is left behind what is left of its header. -/
theorem leaves_listing {kept : Statement → String}
    (headers : ∀ s ∈ statements, Leaves s.header (kept s))
    (inert : ∀ s ∈ statements, Inert s.cypher) :
    Leaves ("\n\n".intercalate (statements.map annotated) ++ "\n")
      ("\n\n".intercalate (statements.map fun s => kept s ++ s.cypher) ++ "\n") := by
  -- What stands between the statements and behind them is inert as well.
  have gap : Inert "\n\n" := by decide
  have ending : Inert "\n" := by decide
  refine (Leaves.intercalate gap fun s member => ?_).append ending.leaves
  rw [annotated_eq]
  exact (headers s member).append (inert s member).leaves

/-- Statements with an empty line between them. -/
def joined (statements : List Statement) : String :=
  "\n\n".intercalate (statements.map cypher) ++ "\n"

/-- A text that lists statements under headers. -/
structure IsListing (text : String) (statements : List Statement) : Prop where
  /-- Each statement stands under its header, and there is an empty line in between. -/
  annotated : text = "\n\n".intercalate (statements.map annotated) ++ "\n"
  /-- A header is dropped as a whole, whatever is behind it, exactly if it is plain. -/
  header : ∀ s ∈ statements, Leaves s.header "" ↔ s.HasPlainHeader
  /-- Without the comments just the statements are left, if all headers are plain. -/
  plain : (∀ s ∈ statements, s.HasPlainHeader) → withoutComments text = joined statements
  /-- Where there are no quotes in the names, this is the only way. -/
  only : (∀ s ∈ statements, s.HasUnquotedNames) → withoutComments text = joined statements →
    ∀ s ∈ statements, s.HasPlainHeader

/-- Inert statements are listed under their headers. -/
theorem isListing (inert : ∀ s ∈ statements, Inert s.cypher) :
    IsListing ("\n\n".intercalate (statements.map Statement.annotated) ++ "\n") statements where
  annotated := rfl
  header s _ := s.leaves_header_iff
  plain plain := by
    have headers : ∀ s ∈ statements, Leaves s.header "" :=
      fun s member => s.leaves_header_iff.mpr (plain s member)
    have dropped := (leaves_listing headers inert).withoutComments_eq
    simpa only [String.empty_append, joined] using dropped
  only unquoted bare := by
    have headers : ∀ s ∈ statements, Leaves s.header (withoutComments s.header) :=
      fun s member => (unquoted s member).leaves_header
    rw [(leaves_listing headers inert).withoutComments_eq] at bare
    -- What is left of the headers is seen in the text, unless it is empty.
    have empty := intercalate_append_eq_iff.mp ((String.append_left_inj _).mp bare)
    exact fun s member => s.leaves_header_iff.mp (empty s member ▸ headers s member)

end Statement

/-- Work on rows that arrive as a parameter is inert, if its lines are. -/
theorem inert_unwind {body : List String} (lines : ∀ line ∈ body, Inert line) :
    Inert (unwindText body) := by
  refine .intercalate (by decide) ?_
  exact List.forall_mem_cons.mpr ⟨by decide, List.forall_mem_cons.mpr ⟨by decide, lines⟩⟩

namespace Compiler

variable {c : Compiler} {statements : List Statement}

/-- What a compiler writes for rows that arrive as a parameter is inert. -/
theorem inert_unwindStatements (written : c.unwindStatements = .ok statements) :
    ∀ s ∈ statements, Inert s.cypher := by
  rw [unwindStatements_eq] at written
  obtain ⟨loads, built, rfl⟩ := map_eq_ok_iff.mp written
  rw [List.forall_mem_map]
  exact fun l member => inert_unwind (inert_lines built l member)

end Compiler

/-- The text that a request hands out, in a file or else in print. -/
def Outcome.text (o : Outcome) : String :=
  (o.saved.map Prod.snd).getD o.printed

namespace Command

variable {c : Command} {files : Files} {env : Environment}

/-- A text that is handed out without a failure is the text of the outcome. -/
theorem text_textOutcome {text : String} (done : (c.textOutcome files text).failure = none) :
    (c.textOutcome files text).text = text := by
  -- A text is kept back only where its file cannot be written.
  unfold textOutcome at done ⊢
  split at done
  · rfl
  · split_ifs at done ⊢
    rfl

/-- A request for statements that does not fail hands out the listing of a compiler. -/
theorem listing_of_run (listed : c.product = .statements)
    (done : (c.run files env).failure = none) :
    ∃ compiler, c.compiler files env = .ok compiler ∧
      compiler.listing = .ok (c.run files env).text := by
  -- A failure of the compiler or of the listing would be one of the request.
  unfold run at done ⊢
  cases made : c.compiler files env with
  | error reason => simp [made] at done
  | ok compiler =>
    simp only [made, outcome, listed] at done ⊢
    refine ⟨compiler, rfl, ?_⟩
    cases written : compiler.listing with
    | error reason => simp [written] at done
    | ok text =>
      simp only [written] at done ⊢
      rw [text_textOutcome done]

/-- A request for statements that does not fail hands out a listing of the statements that its
compiler writes. -/
theorem run_listed (c : Command) (files : Files) (env : Environment)
    (listed : c.product = .statements) (done : (c.run files env).failure = none) :
    ∃ compiler statements, c.compiler files env = .ok compiler ∧
      compiler.unwindStatements = .ok statements ∧
      IsListing (c.run files env).text statements := by
  obtain ⟨compiler, made, written⟩ := listing_of_run listed done
  obtain ⟨statements, unwound, text⟩ := bind_eq_ok_iff.mp written
  exact ⟨compiler, statements, made, unwound,
    Except.ok.inj text ▸ isListing (Compiler.inert_unwindStatements unwound)⟩

/-- A request for a listing of the model in a file. -/
def forListing : Command where
  model := "larder.yaml"
  product := .statements
  layer := { sourceName := some "larder.csv" }

/-- The only file at hand, with the model of one label, which is written as in a quoted text. -/
def larder (label : String) : Files where
  read? path :=
    if path = "larder.yaml" then
      some ("nodes:\n- label: \"" ++ label ++ "\"\n  properties:\n  - name: id\n" ++
        "    column_mapping: id\n    is_unique: true\n")
    else none
  isWritable _ := false

/-- Nothing is set in this environment. -/
def unset : Environment := fun _ => none

/-- Jam is listed, under a header of two lines that are both comments. -/
theorem run_listed_jam :
    forListing.product = .statements ∧
      (forListing.run (larder "Jam\\n// cold") unset).failure = none ∧
      ∃ compiler statements, forListing.compiler (larder "Jam\\n// cold") unset = .ok compiler ∧
        compiler.unwindStatements = .ok statements ∧
        IsListing (forListing.run (larder "Jam\\n// cold") unset).text statements :=
  have done : (forListing.run (larder "Jam\\n// cold") unset).failure = none := by decide +kernel
  ⟨rfl, done, run_listed forListing (larder "Jam\\n// cold") unset rfl done⟩

/-- A label that leads out of its header. -/
def leak : String :=
  "Jam\nMATCH (n) DETACH DELETE n; //"

/-- The compiler for the model of that label. -/
def leaking : Compiler where
  model := {
    nodes := [
      { label := leak, properties := [{ name := "id", column := "id", isUnique := true }] }]
    relationships := [] }
  options := { sourceName := "larder.csv" }
  valid := by decide

/-- The model in the file is that of the label. -/
theorem compiler_leak :
    forListing.compiler (larder "Jam\\nMATCH (n) DETACH DELETE n; //") unset = .ok leaking := by
  -- Options are at their defaults and the file holds the model, so nothing else can fail.
  have lower : forListing.lowerOptions (larder "Jam\\nMATCH (n) DETACH DELETE n; //") unset =
      .ok {} := by decide +kernel
  have read : (larder "Jam\\nMATCH (n) DETACH DELETE n; //").model forListing.model =
      .ok leaking.model := by decide +kernel
  rw [compiler_of_valid lower leaking.valid, read]
  rfl

/-- The statement for that label. -/
def leaked : Statement where
  element := .node leak
  sourceName := leaking.options.sourceName
  cypher := unwindText ["MERGE (n:" ++ quoteIdentifier leak ++ " \x7bid: row.id\x7d)"]

/-- The text listed for that label holds a statement behind which the whole graph is gone. -/
theorem run_leaks :
    (forListing.run (larder "Jam\\nMATCH (n) DETACH DELETE n; //") unset).failure = none ∧
      ∃ compiler statements,
        forListing.compiler (larder "Jam\\nMATCH (n) DETACH DELETE n; //") unset = .ok compiler ∧
        compiler.unwindStatements = .ok statements ∧
        withoutComments
            (forListing.run (larder "Jam\\nMATCH (n) DETACH DELETE n; //") unset).text =
          "MATCH (n) DETACH DELETE n; " ++ joined statements ∧
        withoutComments
            (forListing.run (larder "Jam\\nMATCH (n) DETACH DELETE n; //") unset).text ≠
          joined statements := by
  have unwound : leaking.unwindStatements = .ok [leaked] := by decide +kernel
  have listed : leaking.listing = .ok (leaked.annotated ++ "\n") := by
    rw [Compiler.listing, unwound]
    rfl
  -- With the compiler known, the file is not read once more.
  have printed : forListing.run (larder "Jam\\nMATCH (n) DETACH DELETE n; //") unset =
      { printed := leaked.annotated ++ "\n" } := by
    rw [run, compiler_leak]
    simp only [outcome, forListing, listed, textOutcome]
  have left : withoutComments (leaked.annotated ++ "\n") =
      "MATCH (n) DETACH DELETE n; " ++ joined [leaked] := by
    have inert := Compiler.inert_unwindStatements unwound leaked List.mem_cons_self
    have ending : Inert "\n" := by decide
    have unquoted : leaked.HasUnquotedNames := by decide +kernel
    have header : withoutComments leaked.header = "MATCH (n) DETACH DELETE n; " := by
      decide +kernel
    -- What is left of the header goes to the front of the statement.
    have leaves := unquoted.leaves_header
    rw [header] at leaves
    have dropped := ((leaves.append inert.leaves).append ending.leaves).withoutComments_eq
    rwa [← annotated_eq, String.append_assoc] at dropped
  have longer : "MATCH (n) DETACH DELETE n; " ++ joined [leaked] ≠ joined [leaked] := by simp
  rw [printed]
  exact ⟨rfl, leaking, [leaked], compiler_leak, unwound, left, left ▸ longer⟩

end Command

end GraphLoad
