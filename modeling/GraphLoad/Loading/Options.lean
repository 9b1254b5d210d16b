import GraphLoad.Text.Blank
import GraphLoad.Text.Count

/-! Options of a load, their limits, and the layers they are given in. -/

namespace GraphLoad

/-- How bulk-load statements are submitted. -/
inductive Submission where
  /-- Through a driver or over the network. -/
  | api
  /-- In the browser console, which has to be told about transactions of its own. -/
  | browser
deriving DecidableEq, Repr

namespace Submission

/-- The spelling of a way of submission. -/
def name : Submission → String
  | api => "api"
  | browser => "browser"

/-- The way of submission a text names, which may be spelt in capitals and surrounded by blanks. -/
def ofText? (text : String) : Option Submission :=
  let word := lowerLatin (trimBlanks text.toList)
  if word = api.name.toList then some api
  else if word = browser.name.toList then some browser
  else none

/-- The complaint about a text that names no way of submission. -/
def unknownMessage (text : String) : String :=
  "Unknown load method '" ++ text ++ "' (expected 'api' or 'browser')"

end Submission

/-- The options every statement of a load is written under. -/
structure LoadOptions where
  /-- Values are converted to the declared types of their properties. -/
  strictTyping : Bool := true
  /-- How bulk-load statements are submitted. -/
  method : Submission := .api
  /-- The number of rows in a transaction of a bulk load. -/
  batchSize : UInt32 := 100
  /-- The file of elements that declare none. -/
  sourceName : String := "file.csv"
  /-- The directory in front of every file of a bulk load. -/
  fileDirectory : String := ""
deriving DecidableEq, Repr

/-- A limit that options break. -/
inductive OptionProblem where
  /-- A transaction would hold no row. -/
  | emptyBatch
  /-- Undeclared files would have no name. -/
  | unnamedSource
deriving DecidableEq, Repr

namespace OptionProblem

/-- The problem in words. -/
def message : OptionProblem → String
  | emptyBatch => "batch_size: Batch size must be at least 1"
  | unnamedSource => "source_name: Source name cannot be empty"

/-- Several problems in words, one a line. -/
def report (problems : List OptionProblem) : String :=
  "\n".intercalate (problems.map message)

end OptionProblem

namespace LoadOptions

/-- The limits that the options break. -/
def problems (o : LoadOptions) : List OptionProblem :=
  (if o.batchSize = 0 then [.emptyBatch] else [])
    ++ (if o.sourceName = "" then [.unnamedSource] else [])

end LoadOptions

/-- A layer of options, each of which may be left to the layer below. -/
structure OptionLayer where
  /-- Whether values are converted, if given. -/
  strictTyping : Option Bool := none
  /-- The way of submission, if given. -/
  method : Option Submission := none
  /-- The number of rows in a transaction, if given. -/
  batchSize : Option UInt32 := none
  /-- The file of elements that declare none, if given. -/
  sourceName : Option String := none
  /-- The directory in front of every file, if given. -/
  fileDirectory : Option String := none
deriving DecidableEq, Repr

/-- The options of a layer above given ones. -/
def LoadOptions.overlay (o : LoadOptions) (layer : OptionLayer) : LoadOptions where
  strictTyping := layer.strictTyping.getD o.strictTyping
  method := layer.method.getD o.method
  batchSize := layer.batchSize.getD o.batchSize
  sourceName := layer.sourceName.getD o.sourceName
  fileDirectory := layer.fileDirectory.getD o.fileDirectory

/-- Why options cannot be loaded. -/
inductive OptionError where
  /-- A variable of the environment is neither `true` nor `false`. -/
  | notFlag (variableName value : String)
  /-- A variable of the environment names no way of submission. -/
  | notMethod (variableName value : String)
  /-- A variable of the environment is not a count. -/
  | notCount (variableName value : String) (reason : CountError)
  /-- A file of options cannot be read. -/
  | unreadableFile
  /-- A file of options with this text is no document of options. -/
  | malformedFile (content : String)
  /-- The options break limits. -/
  | outOfRange (problems : List OptionProblem)
deriving DecidableEq, Repr

namespace OptionError

/-- The text for a variable whose value cannot be parsed. -/
def parseMessage (field value reason : String) : String :=
  "Parse error for " ++ field ++ ": " ++ value ++ " - " ++ reason

/-- The error in words, for the errors that have words of their own. -/
def message? : OptionError → Option String
  | notFlag field value =>
    some (parseMessage field value "provided string was not `true` or `false`")
  | notMethod field value => some (parseMessage field value (Submission.unknownMessage value))
  | notCount field value reason => some (parseMessage field value reason.message)
  | outOfRange problems => some ("Validation error: " ++ OptionProblem.report problems)
  | unreadableFile | malformedFile _ => none

end OptionError

namespace LoadOptions

/-- The options themselves if they keep the limits. -/
def checked (o : LoadOptions) : Except OptionError LoadOptions :=
  match o.problems with
  | [] => .ok o
  | problems => .error (.outOfRange problems)

/-- Puts a layer above options in use and tells whether the result keeps the limits. The layer stays
in use where it does not. -/
def merge (o : LoadOptions) (layer : OptionLayer) : LoadOptions × Except OptionError Unit :=
  let merged := o.overlay layer
  (merged, merged.checked.map fun _ => ())

end LoadOptions

/-- The variables of an environment. -/
abbrev Environment := String → Option String

namespace Environment

/-- The truth value of a variable, or `default` where it is not set. -/
def flag (env : Environment) (name : String) (default : Bool) : Except OptionError Bool :=
  match env name with
  | none => .ok default
  | some "true" => .ok true
  | some "false" => .ok false
  | some value => .error (.notFlag name value)

/-- The way of submission a variable names, or `default` where it is not set. -/
def submission (env : Environment) (name : String) (default : Submission) :
    Except OptionError Submission :=
  match env name with
  | none => .ok default
  | some value =>
    match Submission.ofText? value with
    | some method => .ok method
    | none => .error (.notMethod name value)

/-- The count in a variable, or `default` where it is not set. -/
def count (env : Environment) (name : String) (default : UInt32) : Except OptionError UInt32 :=
  match env name with
  | none => .ok default
  | some value => (readCount value.toList).mapError (.notCount name value)

/-- The variable that sets whether values are converted. -/
def strictTypingVariable : String := "RUNWAY_STRICT_TYPING"

/-- The variable that sets the way of submission. -/
def methodVariable : String := "RUNWAY_LOAD_METHOD"

/-- The variable that sets the number of rows in a transaction. -/
def batchSizeVariable : String := "RUNWAY_BATCH_SIZE"

/-- The variable that sets the file of elements that declare none. -/
def sourceNameVariable : String := "RUNWAY_SOURCE_NAME"

/-- The variable that sets the directory in front of every file. -/
def fileDirectoryVariable : String := "RUNWAY_FILE_DIRECTORY"

/-- All variables that set options. -/
def optionVariables : List String :=
  [strictTypingVariable, methodVariable, batchSizeVariable, sourceNameVariable,
    fileDirectoryVariable]

/-- The options that the variables of an environment set. -/
def loadOptions (env : Environment) : Except OptionError LoadOptions := do
  let defaults : LoadOptions := {}
  let strictTyping ← env.flag strictTypingVariable defaults.strictTyping
  let method ← env.submission methodVariable defaults.method
  let batchSize ← env.count batchSizeVariable defaults.batchSize
  let sourceName := (env sourceNameVariable).getD defaults.sourceName
  let fileDirectory := (env fileDirectoryVariable).getD defaults.fileDirectory
  LoadOptions.checked { strictTyping, method, batchSize, sourceName, fileDirectory }

end Environment

end GraphLoad
