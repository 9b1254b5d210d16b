import GraphLoad.Proofs.Cypher.BulkStatement
import GraphLoad.Proofs.Loading.Loads

/-! A script and a manifest of one model describe one load: the same work on the rows of the same
files, in the same order, in batches of the same size. -/

namespace GraphLoad

open Cypher

/-- Two runs end alike: with one error, or with results that are related. -/
inductive EndAlike {α β ε : Type} (Related : α → β → Prop) : Except ε α → Except ε β → Prop where
  /-- Both fail, and for the same reason. -/
  | error (reason : ε) : EndAlike Related (.error reason) (.error reason)
  /-- Both succeed. -/
  | ok {first : α} {second : β} (related : Related first second) :
    EndAlike Related (.ok first) (.ok second)

/-- Runs that start alike and go on alike end alike. -/
theorem EndAlike.bind {α β γ δ ε : Type} {Before : α → β → Prop} {Behind : γ → δ → Prop}
    {x : Except ε α} {y : Except ε β} {f : α → Except ε γ} {g : β → Except ε δ}
    (start : EndAlike Before x y) (next : ∀ a b, Before a b → EndAlike Behind (f a) (g b)) :
    EndAlike Behind (x >>= f) (y >>= g) := by
  cases start with
  | error reason => exact .error reason
  | ok related => exact next _ _ related

/-- A statement over a file and an entry of a manifest do the same work on the rows of the same
file, with the same number of rows at once. -/
structure SameWork (o : LoadOptions) (s : Statement) (f : ManifestFile) : Prop where
  /-- Both are one body, written for the two ways to feed it with rows. -/
  body : ∃ lines, f.cypher = unwindText lines ∧
    bulkText lines (o.fileDirectory ++ s.sourceName) o.method o.batchSize = .ok s.cypher
  /-- The entry leads to the file of the statement. -/
  url : f.url = "$BASE/" ++ s.sourceName
  /-- The entry hands over as many rows as the options put into a transaction. -/
  chunkSize : f.chunkSize = o.batchSize
  /-- The statement says so at its end. -/
  batchSize : ∃ front, s.cypher =
    front ++ "\n\x7d IN TRANSACTIONS OF " ++ toString f.chunkSize.toNat ++ " ROWS;"

/-- A script and a manifest describe one load. -/
structure Compiler.SameLoad (c : Compiler) (settings : ManifestSettings) (text : String)
    (manifest : Manifest) : Prop where
  /-- The manifest holds the connection that was asked for. -/
  settings : manifest.settings = settings
  /-- It starts with the constraints. -/
  constraints : c.constraints = .ok manifest.preIngest
  /-- The script starts with them too, and then does the work of each entry in turn. -/
  statements : ∃ statements, c.bulkStatements = .ok statements ∧
    text = "\n\n".intercalate (manifest.preIngest ++ statements.map Statement.cypher) ++ "\n" ∧
    List.Forall₂ (SameWork c.options) statements manifest.files

/-- A load written in two ways is the same work. -/
theorem Compiler.sameWork (c : Compiler) (l : Load) :
    SameWork c.options (l.bulkStatement c.options)
      (.ofSource l.unwind.sourceName c.options.batchSize l.unwind.cypher) where
  body := ⟨l.lines, rfl, if_neg c.batchSize_ne_zero⟩
  url := rfl
  chunkSize := rfl
  -- The number stands in the last line of the text.
  batchSize := by
    rw [Load.bulkStatement_cypher]
    exact ⟨_, intercalate_bulkLines ..⟩

namespace Compiler

/-- Both kinds of statements are written from the same loads, or for the same reason not at all. -/
theorem statements_endAlike (c : Compiler) :
    EndAlike (fun bulk unwound => c.bulkStatements = .ok bulk ∧
        ∃ loads : List Load, bulk = loads.map (Load.bulkStatement c.options) ∧
          unwound = loads.map Load.unwind)
      c.bulkStatements c.unwindStatements := by
  rw [bulkStatements_eq, unwindStatements_eq]
  cases c.loads with
  | error reason => exact .error reason
  | ok loads => exact .ok ⟨rfl, loads, rfl, rfl⟩

/-- A script and a manifest of one model describe one load, or are refused for one reason. -/
theorem script_manifest_endAlike (c : Compiler) (settings : ManifestSettings) :
    EndAlike (c.SameLoad settings) c.script (c.manifest settings) := by
  unfold script manifest
  cases constrained : c.constraints with
  | error reason => exact .error reason
  | ok constraints =>
    -- The constraints are shared, and the statements and the files come from shared loads.
    refine c.statements_endAlike.bind ?_
    rintro _ _ ⟨written, loads, rfl, rfl⟩
    refine .ok ⟨rfl, constrained, _, written, rfl, ?_⟩
    -- An entry and a statement at one place are written from the load at that place.
    rw [List.map_map, List.forall₂_map_left_iff, List.forall₂_map_right_iff, List.forall₂_same]
    exact fun l _ => c.sameWork l

end Compiler

end GraphLoad
