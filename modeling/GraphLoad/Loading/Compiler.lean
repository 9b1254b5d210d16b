import GraphLoad.Cypher.Constraint
import GraphLoad.Cypher.Statement
import GraphLoad.Loading.Manifest
import GraphLoad.Schema.Check

/-! Compiling a whole model: constraints, statements for either way of loading, and manifests. -/

namespace GraphLoad

open Cypher

/-- A model together with valid options and what is known of its source files. -/
structure Compiler where
  /-- The model to be loaded. -/
  model : Model
  /-- The options of the load. -/
  options : LoadOptions
  /-- The source files, where columns are to be checked. -/
  files : Option SourceFiles := none
  /-- The options keep their limits. -/
  valid : options.problems = []

/-- The work that loads one element. -/
structure Load where
  /-- The element. -/
  element : ElementRef
  /-- The file its rows come from, without any directory. -/
  sourceName : String
  /-- The work on a row. -/
  body : List Clause
deriving DecidableEq, Repr

/-- A statement that loads one element. -/
structure Statement where
  /-- The element. -/
  element : ElementRef
  /-- The file its rows come from, without any directory. -/
  sourceName : String
  /-- The text of the statement. -/
  cypher : String
deriving DecidableEq, Repr

/-- The statement under a comment that names its element and file. -/
def Statement.annotated (s : Statement) : String :=
  "// " ++ s.element.text ++ " (" ++ s.sourceName ++ ")\n" ++ s.cypher

/-- The clauses of a load, a line to each. -/
def Load.lines (l : Load) : List String :=
  l.body.map Clause.text

/-- The columns that a row of a load has to have. -/
def Load.columns (l : Load) : List String :=
  bodyColumns l.body

/-- The load as a statement whose rows arrive as a parameter. -/
def Load.unwind (l : Load) : Statement :=
  ⟨l.element, l.sourceName, unwindText l.lines⟩

/-- The load as a statement that reads its file. -/
def Load.bulk (l : Load) (o : LoadOptions) : Except CompileError Statement := do
  let cypher ← bulkText l.lines (o.fileDirectory ++ l.sourceName) o.method o.batchSize
  return ⟨l.element, l.sourceName, cypher⟩

namespace Compiler

/-- A compiler for a model; options beyond their limits are refused. -/
def ofOptions (model : Model) (options : LoadOptions) (files : Option SourceFiles) :
    Except CompileError Compiler :=
  if valid : options.problems = [] then .ok { model, options, files, valid }
  else .error (.invalidOptions options.problems)

/-- The faults of the model under the compiler's options and files. -/
def faults (c : Compiler) : List Fault :=
  c.model.faults c.files c.options.sourceName

/-- Refuses a model with faults that statements cannot be written for. -/
def check (c : Compiler) : Except CompileError Unit :=
  match c.faults.filter Fault.isBlocking with
  | [] => .ok ()
  | blocking => .error (.invalidModel blocking)

/-- The constraint statements of the model. -/
def constraints (c : Compiler) : Except CompileError (List String) := do
  c.check
  constraintTexts c.model.elements

/-- The file a node's rows are loaded from. -/
def nodeSource (c : Compiler) (n : Node) : String :=
  n.fileOr c.options.sourceName

/-- The file a relationship's rows are loaded from. -/
def relationshipSource (c : Compiler) (r : Relationship) (source target : Node) : String :=
  (r.plan source target c.options.sourceName).rowFile

/-- The work that loads a node. -/
def nodeLoad (c : Compiler) (n : Node) : Except CompileError Load := do
  let body ← nodeBody n c.options.strictTyping
  return ⟨n.element.ref, c.nodeSource n, body⟩

/-- The work that loads a relationship. -/
def relationshipLoad (c : Compiler) (r : Relationship) : Except CompileError Load := do
  let (source, target) ← (c.model.endpoints r).mapError .unresolved
  let body ← relationshipBody r source target c.options.sourceName c.options.strictTyping
  return ⟨r.element.ref, c.relationshipSource r source target, body⟩

/-- The work that loads the model: nodes, then relationships, in declared order. -/
def loads (c : Compiler) : Except CompileError (List Load) := do
  c.check
  let nodes ← c.model.nodes.mapM c.nodeLoad
  let relationships ← c.model.relationships.mapM c.relationshipLoad
  return nodes ++ relationships

/-- The statements whose rows arrive as a parameter. -/
def unwindStatements (c : Compiler) : Except CompileError (List Statement) := do
  return (← c.loads).map Load.unwind

/-- The statements that read their files. -/
def bulkStatements (c : Compiler) : Except CompileError (List Statement) := do
  (← c.loads).mapM (·.bulk c.options)

/-- The constraints and the statements that read their files, as one script. -/
def script (c : Compiler) : Except CompileError String := do
  let constraints ← c.constraints
  let statements ← c.bulkStatements
  return "\n\n".intercalate (constraints ++ statements.map Statement.cypher) ++ "\n"

/-- The manifest of the load. -/
def manifest (c : Compiler) (settings : ManifestSettings) : Except CompileError Manifest := do
  let constraints ← c.constraints
  let statements ← c.unwindStatements
  let files := statements.map fun s => .ofSource s.sourceName c.options.batchSize s.cypher
  return ⟨settings, constraints, files⟩

end Compiler

end GraphLoad
