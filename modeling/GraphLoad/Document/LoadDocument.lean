import GraphLoad.Document.Format
import GraphLoad.Loading.Manifest
import GraphLoad.Loading.Options

/-! The document form of load options and of manifests. -/

namespace GraphLoad

open Format

variable {α : Type} {m : Type → Type} [Format α m] [Monad m] [MonadExceptOf Unit m]

/-- The fields of load options. -/
def optionFields : List String :=
  ["strict_typing", "method", "batch_size", "source_name", "file_directory"]

/-- The fields of a manifest's settings. -/
def settingFields : List String := ["server_uri", "admin_user", "database", "basepath"]

/-- The fields of a manifest's file entry. -/
def manifestFileFields : List String := ["url", "chunk_size", "cql"]

/-- The fields of a manifest. -/
def manifestFields : List String := settingFields ++ ["pre_ingest", "files"]

/-- Reads a way of submission. -/
def Submission.read? (document : α) : m Submission := do
  match ← case? document with
  | "api" => return .api
  | "browser" => return .browser
  | _ => throw ()

/-- Reads load options; what is left out has its default. -/
def LoadOptions.read? (document : α) : m LoadOptions := do
  let defaults : LoadOptions := {}
  match ← fields? optionFields document with
  | [strictTyping, method, batchSize, sourceName, fileDirectory] =>
    return {
      strictTyping := ← optional flag? defaults.strictTyping strictTyping
      method := ← optional Submission.read? defaults.method method
      batchSize := ← optional count? defaults.batchSize batchSize
      sourceName := ← optional text? defaults.sourceName sourceName
      fileDirectory := ← optional text? defaults.fileDirectory fileDirectory }
  | _ => throw ()

/-- Reads a manifest's settings; what is left out has its default. -/
def ManifestSettings.read? (document : α) : m ManifestSettings := do
  let defaults : ManifestSettings := {}
  match ← fields? settingFields document with
  | [serverUri, adminUser, database, basePath] =>
    return {
      serverUri := ← optional text? defaults.serverUri serverUri
      adminUser := ← optional text? defaults.adminUser adminUser
      database := ← optional optionalText? defaults.database database
      basePath := ← optional text? defaults.basePath basePath }
  | _ => throw ()

/-- Reads a manifest's file entry. -/
def ManifestFile.read? (document : α) : m ManifestFile := do
  match ← fields? manifestFileFields document with
  | [url, chunkSize, cypher] =>
    return {
      url := ← required text? url
      chunkSize := ← required count? chunkSize
      cypher := ← required text? cypher }
  | _ => throw ()

/-- Reads a manifest, whose connection has no defaults. -/
def Manifest.read? (document : α) : m Manifest := do
  match ← fields? manifestFields document with
  | [serverUri, adminUser, database, basePath, preIngest, files] =>
    return {
      settings := {
        serverUri := ← required text? serverUri
        adminUser := ← required text? adminUser
        database := ← optional optionalText? none database
        basePath := ← required text? basePath }
      preIngest := ← optional (listOf? text?) [] preIngest
      files := ← optional (listOf? ManifestFile.read?) [] files }
  | _ => throw ()

/-- The document of load options. -/
def LoadOptions.document (o : LoadOptions) : Value :=
  .record
    [("strict_typing", .flag o.strictTyping), ("method", .text o.method.name),
      ("batch_size", .count o.batchSize), ("source_name", .text o.sourceName),
      ("file_directory", .text o.fileDirectory)]

/-- The document of a manifest's settings. -/
def ManifestSettings.document (s : ManifestSettings) : Value :=
  .record
    [("server_uri", .text s.serverUri), ("admin_user", .text s.adminUser),
      ("database", (s.database.map Value.text).getD .null), ("basepath", .text s.basePath)]

/-- The document of a manifest's file entry. -/
def ManifestFile.document (f : ManifestFile) : Value :=
  .record [("url", .text f.url), ("chunk_size", .count f.chunkSize), ("cql", .text f.cypher)]

/-- The document of a manifest, without what it has nothing to say about. -/
def Manifest.document (m : Manifest) : Value :=
  .record <|
    [("server_uri", .text m.settings.serverUri), ("admin_user", .text m.settings.adminUser)]
    ++ Value.textField? "database" m.settings.database
    ++ [("basepath", .text m.settings.basePath)]
    ++ (if m.preIngest.isEmpty then [] else [("pre_ingest", .list (m.preIngest.map .text))])
    ++ [("files", .list (m.files.map ManifestFile.document))]

end GraphLoad
