import GraphLoad.Schema.Graph
import GraphLoad.Text.NameMap

/-! Known source files, and the columns an element can read from them. -/

namespace GraphLoad

/-- Known source files, each with its columns. -/
structure SourceFiles where
  /-- The columns by file name. -/
  columns : NameMap (List String) := ∅
deriving DecidableEq, Repr

namespace SourceFiles

/-- The columns of one file that elements without a declared source read. -/
def single (columns : List String) : SourceFiles :=
  ⟨NameMap.insert ∅ implicitSource columns⟩

/-- Sets the columns of a file. -/
def insert (files : SourceFiles) (name : String) (columns : List String) : SourceFiles :=
  ⟨files.columns.insert name columns⟩

/-- The files of a list; of two entries for one file the later counts. -/
def ofList (pairs : List (String × List String)) : SourceFiles :=
  ⟨NameMap.ofList pairs⟩

/-- The file names in code point order. -/
def names (files : SourceFiles) : List String :=
  files.columns.names

/-- Whether a file is known. -/
def contains (files : SourceFiles) (name : String) : Bool :=
  (files.columns.get? name).isSome

/-- Whether there is more than one file. -/
def isMultiFile (files : SourceFiles) : Bool :=
  1 < files.columns.size

/-- Whether no file is known. -/
def isEmpty (files : SourceFiles) : Bool :=
  files.columns.entries.isEmpty

/-- The columns visible to an element with the given declaration.

Without a declaration these are the columns of the only file, or of the implicit file when there
are several. -/
def columnsFor (files : SourceFiles) : Option String → Option (List String)
  | some name => files.columns.get? name
  | none =>
    match files.columns.entries with
    | [(_, columns)] => some columns
    | _ => files.columns.get? implicitSource

end SourceFiles

/-- The column of each property by name; a repeated name keeps its last column. -/
def columnMapping (properties : List Property) : NameMap String :=
  NameMap.ofList (properties.map fun p => (p.name, p.column))

end GraphLoad
