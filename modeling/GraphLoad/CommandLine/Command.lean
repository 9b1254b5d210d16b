import GraphLoad.Loading.Compiler
import GraphLoad.Loading.Files

/-! What the command line is asked to do, and how it is done. -/

namespace GraphLoad

/-- What is made from a model. -/
inductive Product where
  /-- Constraint statements. -/
  | constraints
  /-- Constraints and statements that read their files. -/
  | script
  /-- Statements whose rows arrive as a parameter. -/
  | statements
  /-- A manifest. -/
  | manifest
  /-- A report of the model's faults. -/
  | report
deriving DecidableEq, Repr

namespace Product

/-- The product that a word stands for. -/
def ofWord? : String → Option Product
  | "constraints" => some constraints
  | "load-csv" => some script
  | "standard" => some statements
  | "pyingest" => some manifest
  | "validate" => some report
  | _ => none

end Product

/-- A request to make something from a model. -/
structure Command where
  /-- The file of the model. -/
  model : String
  /-- The file that tells the columns of source files. -/
  columns : Option String := none
  /-- The file of options, which takes the place of the environment. -/
  config : Option String := none
  /-- What is made. -/
  product : Product := .script
  /-- The file it is written to, in place of being printed. -/
  out : Option String := none
  /-- The options given with the request. -/
  layer : OptionLayer := {}
  /-- The settings of a manifest. -/
  settings : ManifestSettings := {}
deriving DecidableEq, Repr

/-- Why a request fails. -/
inductive Failure where
  /-- The options cannot be loaded. -/
  | options (error : OptionError)
  /-- The model cannot be loaded. -/
  | model (error : FileError)
  /-- The file of columns cannot be read. -/
  | unreadableColumns (path : String)
  /-- The file of columns does not tell columns. -/
  | malformedColumns (path : String)
  /-- The model cannot be compiled. -/
  | compile (error : Cypher.CompileError)
  /-- The model has some faults, and some of them stop it from being compiled. -/
  | faults (count : Nat)
  /-- The product cannot be written to the file. -/
  | unwritable (path : String)
deriving DecidableEq, Repr

namespace Failure

/-- The failure in words. -/
def message : Failure → String
  | options error => error.message?.getD "Failed to load the options file"
  | model error => error.message
  | unreadableColumns path => "Failed to read columns file " ++ path
  | malformedColumns path => "Failed to parse columns file " ++ path
  | compile error => error.message
  | faults count => "Data model has " ++ toString count ++ " problems"
  | unwritable path => "Failed to write " ++ path

end Failure

/-- What a request leads to. -/
structure Outcome where
  /-- The text printed. -/
  printed : String := ""
  /-- The file written, with its text. -/
  saved : Option (String × String) := none
  /-- Why the request fails, if it does. -/
  failure : Option Failure := none
deriving DecidableEq, Repr

/-- The columns that a file tells. -/
def Files.sourceFiles (files : Files) (path : String) : Except Failure SourceFiles :=
  match files.read? path with
  | none => .error (.unreadableColumns path)
  | some text =>
    match TextFormat.yaml.read? SourceFiles.read? text with
    | some known => .ok known
    | none => .error (.malformedColumns path)

/-- The statements of a model, each under a comment, with an empty line between them. -/
def Compiler.listing (c : Compiler) : Except Cypher.CompileError String := do
  return "\n\n".intercalate ((← c.unwindStatements).map Statement.annotated) ++ "\n"

namespace Command

/-- The options below those of a request: those of a file, or else of the environment. -/
def lowerOptions (c : Command) (files : Files) (env : Environment) :
    Except OptionError LoadOptions :=
  match c.config with
  | some path => files.options path
  | none => env.loadOptions

/-- The options of a request: its own above those of a file, or else of the environment. -/
def options (c : Command) (files : Files) (env : Environment) : Except OptionError LoadOptions := do
  let below ← c.lowerOptions files env
  (below.overlay c.layer).checked

/-- The compiler for a request. -/
def compiler (c : Command) (files : Files) (env : Environment) : Except Failure Compiler := do
  let options ← (c.options files env).mapError .options
  let model ← (files.model c.model).mapError .model
  let known ← c.columns.mapM files.sourceFiles
  (Compiler.ofOptions model options known).mapError .compile

/-- A report on the faults of a model, which fails where one of them stops a compilation. -/
def reportOutcome (faults : List Fault) : Outcome :=
  if faults.isEmpty then { printed := "Data model is valid\n" }
  else
    { printed := Fault.report faults ++ "\n"
      failure := if faults.any Fault.isBlocking then some (.faults faults.length) else none }

/-- Hands out the text of a product. -/
def textOutcome (c : Command) (files : Files) (text : String) : Outcome :=
  match c.out with
  | none => { printed := text }
  | some path =>
    if files.isWritable path then { saved := some (path, text) }
    else { failure := some (.unwritable path) }

/-- What comes of a request with the compiler for it. -/
def outcome (c : Command) (files : Files) (compiler : Compiler) : Outcome :=
  let finish (result : Except Cypher.CompileError String) : Outcome :=
    match result with
    | .ok text => c.textOutcome files text
    | .error error => { failure := some (.compile error) }
  match c.product with
  | .constraints =>
    finish (compiler.constraints.map fun texts => "\n".intercalate texts ++ "\n")
  | .script => finish compiler.script
  | .statements => finish compiler.listing
  | .manifest => finish ((compiler.manifest c.settings).map fun m => Yaml.render m.document)
  -- A report is printed whether or not there is a file for products.
  | .report => reportOutcome compiler.faults

/-- Carries out a request. -/
def run (c : Command) (files : Files) (env : Environment) : Outcome :=
  match c.compiler files env with
  | .error failure => { failure := some failure }
  | .ok compiler => c.outcome files compiler

end Command

end GraphLoad
