/-! Manifests for a loader that runs statements over files: where to connect, and what to run. -/

namespace GraphLoad

/-- Where the loader connects and where it finds its files. -/
structure ManifestSettings where
  /-- The address of the server. -/
  serverUri : String := "bolt://localhost:7687"
  /-- The user to connect as. -/
  adminUser : String := "neo4j"
  /-- The database, where it is not the server's default. -/
  database : Option String := none
  /-- The directory that stands for the base of file addresses. -/
  basePath : String := "./"
deriving DecidableEq, Repr

/-- A statement and the file whose rows it is run over. -/
structure ManifestFile where
  /-- The address of the file. -/
  url : String
  /-- The number of rows handed over at once. -/
  chunkSize : UInt32
  /-- The statement. -/
  cypher : String
deriving DecidableEq, Repr

/-- The entry for a source file; its address is relative to the base directory. -/
def ManifestFile.ofSource (sourceName : String) (chunkSize : UInt32) (cypher : String) :
    ManifestFile :=
  ⟨"$BASE/" ++ sourceName, chunkSize, cypher⟩

/-- All the loader has to know. -/
structure Manifest where
  /-- The connection. -/
  settings : ManifestSettings
  /-- Statements to run once before any file is read. -/
  preIngest : List String := []
  /-- The files in the order they are read. -/
  files : List ManifestFile := []
deriving DecidableEq, Repr

end GraphLoad
