import GraphLoad.Document.FaultDocument
import GraphLoad.Document.LoadDocument
import GraphLoad.Proofs.Document.ModelDocument
import GraphLoad.Proofs.Text.Count
import GraphLoad.Proofs.Text.NameMap

/-! Known source files, load options, manifests and faults survive being written as documents and
read back. -/

namespace GraphLoad

open Format

/-- A count is read back from its decimal digits. -/
theorem count?_count (n : UInt32) : count? (Value.count n) = some n := by
  have read : readCount (toString n.toNat).toList = .ok n :=
    readCount_eq_ok_iff.mpr (writesNumber_toString n.toNat)
  change Value.countOfLiteral? (toString n.toNat) = some n
  unfold Value.countOfLiteral?
  -- Digits are no literal with a sign, so they are read as they stand.
  split
  · rename_i signed
    exact absurd signed (toString_ne_signed n.toNat _)
  · rw [read]
    rfl

/-- A list of texts is read back. -/
theorem listOf?_text (texts : List String) :
    listOf? text? (Value.list (texts.map .text)) = some texts := by
  have inverse : ∀ content, text? (Value.text content) = some content := fun _ => rfl
  exact listOf?_map inverse texts

/-- Known source files are read back from their document. -/
theorem SourceFiles.read?_document (files : SourceFiles) :
    SourceFiles.read? files.document = some files := by
  unfold SourceFiles.read? document
  change Option.bind (List.mapM _ (List.map _ _)) _ = _
  -- Each file is read back with its columns, and all of them make the same map again.
  rw [mapM_map_of_inverse]
  · exact congrArg (fun columns => some (SourceFiles.mk columns)) files.columns.ofList_entries
  · rintro ⟨name, columns⟩
    change Option.bind (listOf? text? (Value.list (columns.map .text))) _ = _
    rw [listOf?_text]
    rfl

/-- A way of submission is read back from its name. -/
theorem Submission.read?_name (method : Submission) :
    Submission.read? (Value.text method.name) = some method := by
  cases method <;> rfl

/-- Load options are read back from their document. -/
theorem LoadOptions.read?_document (o : LoadOptions) : LoadOptions.read? o.document = some o := by
  -- All options are written down, those at their defaults as well.
  have fields : fields? optionFields o.document = some
      [some (.flag o.strictTyping), some (.text o.method.name), some (.count o.batchSize),
        some (.text o.sourceName), some (.text o.fileDirectory)] := rfl
  simp only [LoadOptions.read?, fields, optional_some, flag?, Submission.read?_name, count?_count,
    text?, Option.bind_eq_bind, Option.bind_some, Option.pure_def]

/-- A manifest's settings are read back from their document, which says where there is no database.
-/
theorem ManifestSettings.read?_document (s : ManifestSettings) :
    ManifestSettings.read? s.document = some s := by
  have fields : fields? settingFields s.document = some
      [some (.text s.serverUri), some (.text s.adminUser),
        some ((s.database.map Value.text).getD .null), some (.text s.basePath)] := rfl
  -- A missing database is the one setting that is written as a null.
  have database : optionalText? ((s.database.map Value.text).getD .null) = some s.database := by
    cases s.database <;> rfl
  simp only [ManifestSettings.read?, fields, optional_some, text?, database, Option.bind_eq_bind,
    Option.bind_some, Option.pure_def]

/-- A manifest's file entry is read back from its document. -/
theorem ManifestFile.read?_document (f : ManifestFile) :
    ManifestFile.read? f.document = some f := by
  have fields : fields? manifestFileFields f.document = some
      [some (.text f.url), some (.count f.chunkSize), some (.text f.cypher)] := rfl
  simp only [ManifestFile.read?, fields, required_some, text?, count?_count, Option.bind_eq_bind,
    Option.bind_some, Option.pure_def]

/-- A manifest is read back from its document. -/
theorem Manifest.read?_document (m : Manifest) : Manifest.read? m.document = some m := by
  -- The database and the statements in front may be left out.
  have fields : fields? manifestFields m.document = some
      [some (.text m.settings.serverUri), some (.text m.settings.adminUser),
        m.settings.database.map .text, some (.text m.settings.basePath),
        if m.preIngest.isEmpty then none else some (.list (m.preIngest.map .text)),
        some (.list (m.files.map ManifestFile.document))] := by
    unfold document
    cases m.settings.database <;> cases m.preIngest <;> rfl
  -- No statements in front are read as an empty list of them.
  have statements : optional (listOf? text?) []
      (if m.preIngest.isEmpty then none else some (Value.list (m.preIngest.map .text))) =
        some m.preIngest := by
    cases m.preIngest with
    | nil => rfl
    | cons first rest => exact listOf?_text (first :: rest)
  have files := listOf?_map ManifestFile.read?_document m.files
  simp only [Manifest.read?, fields, required_some, text?, optional_text_map, statements,
    optional_some, files, Option.bind_eq_bind, Option.bind_some, Option.pure_def]

/-- A fault is read back from its document. -/
theorem Fault.read?_document (f : Fault) : Fault.read? f.document = some f := by
  -- Each case has a name of its own, and the parts it is made of are all there.
  cases f with
  | missingColumn element property column => cases element <;> rfl
  | missingEndpointColumn type endpoint label property column file => cases endpoint <;> rfl
  | unknownSource element file available =>
    -- The names of the known files are the one part that is a list.
    have parts : Fault.read? (unknownSource element file available).document =
        (listOf? text? (Value.list (available.map .text))).bind fun names =>
          some (unknownSource element file names) := by
      cases element <;> rfl
    rw [parts, listOf?_text, Option.bind_some]
  | singleKeyProperty element property => cases element <;> rfl
  | duplicateProperty element property => cases element <;> rfl
  | duplicateLabel label => rfl
  | noIdentifyingProperty label => rfl
  | duplicateRelationship type source target => rfl
  | unknownEndpoint type endpoint label => cases endpoint <;> rfl
  | ambiguousSource type sourceFile targetFile => rfl

end GraphLoad
