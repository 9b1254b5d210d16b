import GraphLoad.Document.LoadDocument
import GraphLoad.Document.ModelDocument
import GraphLoad.Document.TextFormat

/-! Files that models, options and columns are read from. -/

namespace GraphLoad

/-- The files at hand. -/
structure Files where
  /-- The text of a file, if there is such a file and it holds a text. -/
  read? : String → Option String
  /-- Whether a file can be written. -/
  isWritable : String → Bool

/-- Why a file gives no model. -/
inductive FileError where
  /-- The file cannot be read. -/
  | unreadable (path : String)
  /-- The text of the file is no model in its format. -/
  | malformed (format : TextFormat)
deriving DecidableEq, Repr

namespace FileError

/-- The error in words. -/
def message : FileError → String
  | unreadable path => "Failed to read data model file '" ++ path ++ "'"
  | malformed format => "Failed to parse data model " ++ format.name

end FileError

namespace Files

/-- The model in a file. -/
def model (files : Files) (path : String) : Except FileError Model :=
  match files.read? path with
  | none => .error (.unreadable path)
  | some text =>
    let format := TextFormat.ofPath path
    match format.read? Model.read? text with
    | some m => .ok m
    | none => .error (.malformed format)

/-- The options in a file, which have to keep their limits. -/
def options (files : Files) (path : String) : Except OptionError LoadOptions :=
  match files.read? path with
  | none => .error .unreadableFile
  | some text =>
    match TextFormat.yaml.read? LoadOptions.read? text with
    | some o => o.checked
    | none => .error (.malformedFile text)

end Files

end GraphLoad
