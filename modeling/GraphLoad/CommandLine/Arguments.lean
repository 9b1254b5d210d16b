import GraphLoad.CommandLine.Command

/-! The arguments of the command line. They are taken from left to right, and the first that cannot
be understood, or that asks for information, decides. -/

namespace GraphLoad

/-- Why arguments make no request. -/
inductive Stop where
  /-- They cannot be understood. -/
  | usage
  /-- They ask how the command line is used, or for its version. -/
  | information
deriving DecidableEq, Repr

/-- What arguments have told so far. -/
structure Arguments where
  /-- The file of the model. -/
  model : Option String := none
  /-- The file with the columns of the source files. -/
  columns : Option String := none
  /-- The file of options that takes the place of the environment. -/
  config : Option String := none
  /-- What is to be made. -/
  product : Option Product := none
  /-- The file that the product is written to. -/
  out : Option String := none
  /-- The options said on the command line itself. -/
  layer : OptionLayer := {}
  /-- The address of the server, for a manifest. -/
  serverUri : Option String := none
  /-- The user that loads, for a manifest. -/
  adminUser : Option String := none
  /-- The database to be loaded, for a manifest. -/
  database : Option String := none
  /-- The directory that files are found in, for a manifest. -/
  basePath : Option String := none
deriving DecidableEq, Repr

/-- A value given for something that has none yet. -/
def once? {β : Type} (old new : Option β) : Option (Option β) :=
  if old.isSome then none else new.map some

/-- The path that a word stands for; a path is never empty. -/
def path? (word : String) : Option String :=
  if word.isEmpty then none else some word

/-- The batch size that a word stands for; a zero may have a minus sign. -/
def batchSize? (word : String) : Option UInt32 :=
  match word.toList with
  | '-' :: c :: digits => if (c :: digits).all (· == '0') then some 0 else none
  | digits => (readCount digits).toOption

namespace Arguments

/-- The options that take a value. -/
def valued : List String :=
  ["columns", "config", "output", "out", "method", "batch-size", "source-name", "file-directory",
    "server-uri", "admin-user", "database", "basepath"]

/-- Sets an option that takes a value. -/
def set? (a : Arguments) (name value : String) : Option Arguments := do
  match name with
  | "columns" => return { a with columns := ← once? a.columns (path? value) }
  | "config" => return { a with config := ← once? a.config (path? value) }
  | "output" => return { a with product := ← once? a.product (Product.ofWord? value) }
  | "out" => return { a with out := ← once? a.out (path? value) }
  | "method" =>
    return { a with layer.method := ← once? a.layer.method (Submission.ofText? value) }
  | "batch-size" =>
    return { a with layer.batchSize := ← once? a.layer.batchSize (batchSize? value) }
  | "source-name" => return { a with layer.sourceName := ← once? a.layer.sourceName value }
  | "file-directory" => return { a with layer.fileDirectory := ← once? a.layer.fileDirectory value }
  | "server-uri" => return { a with serverUri := ← once? a.serverUri value }
  | "admin-user" => return { a with adminUser := ← once? a.adminUser value }
  | "database" => return { a with database := ← once? a.database value }
  | "basepath" => return { a with basePath := ← once? a.basePath value }
  | _ => none

/-- Sets an option, or fails. -/
def set (a : Arguments) (name value : String) : Except Stop Arguments :=
  match a.set? name value with
  | some a => .ok a
  | none => .error .usage

/-- Takes a word that is no option: the file of the model. -/
def setModel (a : Arguments) (word : String) : Except Stop Arguments :=
  match once? a.model (path? word) with
  | some model => .ok { a with model }
  | none => .error .usage

/-- Takes a long option. Beside what is told so far, an option is left that waits for its value. -/
def takeLong (a : Arguments) (text : List Char) : Except Stop (Arguments × Option String) :=
  let name := String.ofList (text.takeWhile (· != '='))
  match text.dropWhile (· != '=') with
  | _ :: value =>
    -- No option that does without a value takes one.
    (a.set name (String.ofList value)).map (·, none)
  | [] =>
    if name = "help" ∨ name = "version" then .error .information
    else if name = "no-strict-typing" then
      match once? a.layer.strictTyping (some false) with
      | some strictTyping => .ok ({ a with layer.strictTyping := strictTyping }, none)
      | none => .error .usage
    else if valued.contains name then .ok (a, some name)
    else .error .usage

/-- Takes a short option. -/
def takeShort (a : Arguments) : List Char → Except Stop (Arguments × Option String)
  | ['o'] => .ok (a, some "out")
  | 'o' :: '=' :: value | 'o' :: value => (a.set "out" (String.ofList value)).map (·, none)
  | 'h' :: _ | 'V' :: _ => .error .information
  | _ => .error .usage

/-- Takes a word. -/
def take (a : Arguments) (word : String) : Except Stop (Arguments × Option String) :=
  match word.toList with
  | '-' :: '-' :: text => a.takeLong text
  | '-' :: c :: text => a.takeShort (c :: text)
  | _ => (a.setModel word).map (·, none)

/-- Whether a word may be the value of the option before it. -/
def isValue (word : String) : Bool :=
  word = "-" || word.toList.head? != some '-'

/-- Takes words one after the other, of which the first may be the value of an option. -/
def takeAll (a : Arguments) : Option String → List String → Except Stop Arguments
  | none, [] => .ok a
  | some _, [] => .error .usage
  | some name, word :: rest =>
    if isValue word then do takeAll (← a.set name word) none rest else .error .usage
  -- All after two dashes are words and no options.
  | none, "--" :: rest => rest.foldlM setModel a
  | none, word :: rest => do
    let (a, waiting) ← a.take word
    takeAll a waiting rest

/-- The request that arguments make, where they name a model. -/
def command? (a : Arguments) : Option Command := do
  let settings : ManifestSettings := {}
  return {
    model := ← a.model
    columns := a.columns
    config := a.config
    product := a.product.getD .script
    out := a.out
    layer := a.layer
    settings := {
      serverUri := a.serverUri.getD settings.serverUri
      adminUser := a.adminUser.getD settings.adminUser
      database := a.database
      basePath := a.basePath.getD settings.basePath } }

end Arguments

/-- The request that the words of a command line make. -/
def Command.ofWords (words : List String) : Except Stop Command := do
  let a ← Arguments.takeAll {} none words
  match a.command? with
  | some command => return command
  | none => throw .usage

end GraphLoad
