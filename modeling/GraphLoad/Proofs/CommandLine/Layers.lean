import GraphLoad.Proofs.CommandLine.Words

/-! The options of a request: what its words say stands above a file of options or, where none is
named, above the environment. -/

namespace GraphLoad

/-- What sayings add to a layer. Nothing is said twice, so that nothing said is lost. -/
structure OptionLayer.Told (before : OptionLayer) (said : List Saying) (after : OptionLayer) :
    Prop where
  /-- Values can only be asked to be left as they are. -/
  strictTyping : ∀ typed, after.strictTyping = some typed ↔
    before.strictTyping = some typed ∨ typed = false ∧ .untyped ∈ said
  /-- The way of submission is named. -/
  method : ∀ method, after.method = some method ↔
    before.method = some method ∨
      ∃ word, .option "method" word ∈ said ∧ Submission.ofText? word = some method
  /-- The number of rows is written out. -/
  batchSize : ∀ size, after.batchSize = some size ↔
    before.batchSize = some size ∨
      ∃ word, .option "batch-size" word ∈ said ∧ batchSize? word = some size
  /-- The file of elements that declare none is any text. -/
  sourceName : ∀ name, after.sourceName = some name ↔
    before.sourceName = some name ∨ .option "source-name" name ∈ said
  /-- The directory is any text. -/
  fileDirectory : ∀ directory, after.fileDirectory = some directory ↔
    before.fileDirectory = some directory ∨ .option "file-directory" directory ∈ said

namespace OptionLayer

variable {before between after : OptionLayer} {said later : List Saying}

/-- Where nothing is said a layer stays as it is. -/
theorem told_nil (layer : OptionLayer) : layer.Told [] layer := by
  constructor <;> simp

/-- What is said later adds to what was said before. -/
theorem Told.append (first : before.Told said between) (second : between.Told later after) :
    before.Told (said ++ later) after := by
  -- Field by field: what stands in the end was there between, or was said behind that.
  constructor
  · intro typed
    rw [second.strictTyping, first.strictTyping, List.mem_append]
    tauto
  · intro method
    rw [second.method, first.method]
    simp only [List.mem_append, or_and_right, exists_or, or_assoc]
  · intro size
    rw [second.batchSize, first.batchSize]
    simp only [List.mem_append, or_and_right, exists_or, or_assoc]
  · intro name
    rw [second.sourceName, first.sourceName, List.mem_append, or_assoc]
  · intro directory
    rw [second.fileDirectory, first.fileDirectory, List.mem_append, or_assoc]

/-- Sayings about anything else leave a layer as it is. -/
theorem told_other {saying : Saying} (layer : OptionLayer) (typed : saying ≠ .untyped)
    (other : ∀ name ∈ ["method", "batch-size", "source-name", "file-directory"], ∀ value,
      saying ≠ .option name value) : layer.Told [saying] layer := by
  -- No field asks for such a saying, so that what is there is what was there before.
  have apart := fun name member value => (other name member value).symm
  constructor <;> simp [apart, typed.symm]

end OptionLayer

namespace Arguments

variable {a b : Arguments}

/-- A value told once is the one told before or the one told now. -/
theorem once?_told {β : Type} {old new result : Option β} (told : once? old new = some result)
    (x : β) : result = some x ↔ old = some x ∨ new = some x := by
  obtain ⟨rfl, _, rfl⟩ := once?_eq_some_iff.mp told
  simp

/-- What is set with a value told once is set with that value. -/
theorem told_of_bind {β : Type} {old new : Option β} {set : Option β → Arguments}
    (done : (do return set (← once? old new)) = some b) :
    ∃ value, once? old new = some value ∧ set value = b := by
  obtain ⟨value, told, rest⟩ := Option.bind_eq_some_iff.mp done
  exact ⟨value, told, Option.some.inj rest⟩

/-- An option that is set adds its value to the layer, if it is for the layer. -/
theorem told_of_set? {name value : String} (done : a.set? name value = some b) :
    a.layer.Told [.option name value] b.layer := by
  unfold set? at done
  split at done
  -- The fifth to the eighth option are for the layer, each for the field that bears its name.
  case h_5 =>
    obtain ⟨method, told, rfl⟩ := told_of_bind done
    constructor <;> simp [once?_told told]
  case h_6 =>
    obtain ⟨size, told, rfl⟩ := told_of_bind done
    constructor <;> simp [once?_told told]
  case h_7 =>
    obtain ⟨sourceName, told, rfl⟩ := told_of_bind done
    constructor <;> simp [once?_told told, eq_comm]
  case h_8 =>
    obtain ⟨directory, told, rfl⟩ := told_of_bind done
    constructor <;> simp [once?_told told, eq_comm]
  -- An option of no known name sets nothing.
  case h_13 => cases done
  -- The others leave the layer alone.
  all_goals
    obtain ⟨_, _, rfl⟩ := told_of_bind done
    exact OptionLayer.told_other _ (by simp) (by simp)

/-- What is taken in adds to the layer as it is said. -/
theorem told_of_hear {saying : Saying} (heard : a.hear saying = .ok b) :
    a.layer.Told [saying] b.layer := by
  cases saying with
  | untyped =>
    -- The one value that can be given this way is that values are not converted.
    rw [hear] at heard
    split at heard
    · rename_i strictTyping told
      cases heard
      constructor <;> simp [once?_told told, eq_comm]
    · cases heard
  | option name value =>
    rw [hear, set] at heard
    split at heard
    · rename_i c done
      cases heard
      exact told_of_set? done
    · cases heard
  | model path =>
    -- The file of the model is no option.
    rw [hear, setModel] at heard
    split at heard
    · cases heard
      exact OptionLayer.told_other _ (by simp) (by simp)
    · cases heard

/-- A run of sayings that are taken in adds all of them to the layer. -/
theorem told_of_foldlM {said : List Saying} (heard : said.foldlM hear a = .ok b) :
    a.layer.Told said b.layer := by
  -- Each saying adds to what was said before it.
  induction said generalizing a with
  | nil =>
    cases heard
    exact OptionLayer.told_nil _
  | cons saying later ih =>
    obtain ⟨c, first, rest⟩ := bind_eq_ok_iff.mp heard
    exact (told_of_hear first).append (ih rest)

end Arguments

/-- A value that is given takes the place of the one below, which stands otherwise. -/
def Overrides {β : Type} (given : Option β) (below value : β) : Prop :=
  (∀ x, given = some x → value = x) ∧ (given = none → value = below)

/-- A value read through a layer is overridden by it. -/
theorem overrides_getD {β : Type} (given : Option β) (below : β) :
    Overrides given below (given.getD below) := by
  -- What is given is read, and otherwise the value below.
  constructor
  · rintro x rfl
    rfl
  · rintro rfl
    rfl

namespace LoadOptions

/-- Options that a layer above others makes. -/
structure Layered (o : LoadOptions) (layer : OptionLayer) (below : LoadOptions) : Prop where
  /-- The layer stands above in whether values are converted. -/
  strictTyping : Overrides layer.strictTyping below.strictTyping o.strictTyping
  /-- It stands above in the way of submission. -/
  method : Overrides layer.method below.method o.method
  /-- It stands above in the number of rows in a transaction. -/
  batchSize : Overrides layer.batchSize below.batchSize o.batchSize
  /-- It stands above in the file of elements that declare none. -/
  sourceName : Overrides layer.sourceName below.sourceName o.sourceName
  /-- It stands above in the directory in front of every file. -/
  fileDirectory : Overrides layer.fileDirectory below.fileDirectory o.fileDirectory

/-- Each option of the layer stands above the option of its own name. -/
theorem layered_overlay (below : LoadOptions) (layer : OptionLayer) :
    (below.overlay layer).Layered layer below := by
  constructor <;> exact overrides_getD _ _

/-- Options break a limit exactly when a transaction has no row or undeclared files no name. -/
theorem problems_ne_nil_iff {o : LoadOptions} :
    o.problems ≠ [] ↔ o.batchSize = 0 ∨ o.sourceName = "" := by
  -- Each limit adds its own problem, or none.
  rw [problems]
  split_ifs <;> simp_all

/-- Options keep the limits exactly when a transaction has a row and undeclared files a name. -/
theorem problems_eq_nil_iff {o : LoadOptions} :
    o.problems = [] ↔ o.batchSize ≠ 0 ∧ o.sourceName ≠ "" := by
  rw [← not_or, ← problems_ne_nil_iff, not_not]

/-- Options that break a limit are refused with all the limits they break. -/
theorem checked_of_problems {o : LoadOptions} (broken : o.problems ≠ []) :
    o.checked = .error (.outOfRange o.problems) := by
  rw [checked]
  split
  · exact absurd ‹_› broken
  · rfl

/-- Options that keep the limits are left as they are. -/
theorem checked_of_valid {o : LoadOptions} (valid : o.problems = []) : o.checked = .ok o := by
  rw [checked, valid]

/-- Options are accepted exactly if they break no limit, and as they are. -/
theorem checked_eq_ok_iff {o accepted : LoadOptions} :
    o.checked = .ok accepted ↔ o.problems = [] ∧ o = accepted := by
  by_cases valid : o.problems = []
  · simp [checked_of_valid valid, valid]
  · simp [checked_of_problems valid, valid]

/-- Options are refused exactly if they break limits, and for these. -/
theorem checked_eq_error_iff {o : LoadOptions} {e : OptionError} :
    o.checked = .error e ↔ o.problems ≠ [] ∧ .outOfRange o.problems = e := by
  by_cases valid : o.problems = []
  · simp [checked_of_valid valid, valid]
  · simp [checked_of_problems valid, valid]

end LoadOptions

namespace Command

variable {c : Command} {files : Files} {env other : Environment} {below : LoadOptions}

/-- With a file of options the environment is not looked at. -/
theorem options_congr (named : c.config ≠ none) : c.options files env = c.options files other := by
  -- Of the two sources of options below, the file is the one that is asked.
  obtain ⟨path, present⟩ := Option.ne_none_iff_exists'.mp named
  rw [options, options, lowerOptions, lowerOptions, present]

/-- What lies below is all that options depend on beside the request. -/
theorem options_of_lower (loaded : c.lowerOptions files env = .ok below) :
    c.options files env = (below.overlay c.layer).checked := by
  rw [options, loaded]
  rfl

/-- Options that break a limit stop the request. -/
theorem run_of_problems (loaded : c.lowerOptions files env = .ok below)
    (broken : (below.overlay c.layer).problems ≠ []) :
    c.run files env =
      { failure := some (.options (.outOfRange (below.overlay c.layer).problems)) } := by
  rw [run, compiler, options_of_lower loaded, LoadOptions.checked_of_problems broken]
  rfl

/-- With valid options, the compiler takes them as they are. -/
theorem compiler_of_valid (loaded : c.lowerOptions files env = .ok below)
    (valid : (below.overlay c.layer).problems = []) :
    c.compiler files env = do
      let model ← (files.model c.model).mapError .model
      let known ← c.columns.mapM files.sourceFiles
      return ⟨model, below.overlay c.layer, known, valid⟩ := by
  -- The limits are looked at once more, with the same result.
  have kept : ∀ model files, Compiler.ofOptions model (below.overlay c.layer) files =
      .ok ⟨model, below.overlay c.layer, files, valid⟩ := fun _ _ => dif_pos valid
  rw [compiler, options_of_lower loaded, LoadOptions.checked_of_valid valid]
  change (do
    let model ← (files.model c.model).mapError Failure.model
    let known ← c.columns.mapM files.sourceFiles
    (Compiler.ofOptions model (below.overlay c.layer) known).mapError Failure.compile) = _
  simp only [kept]
  rfl

/-- Options that keep the limits go into the compiler of the request. -/
theorem run_of_valid (loaded : c.lowerOptions files env = .ok below)
    (valid : (below.overlay c.layer).problems = []) {model : Model} {known : Option SourceFiles}
    (read : files.model c.model = .ok model)
    (columns : c.columns.mapM files.sourceFiles = .ok known) :
    c.run files env = c.outcome files ⟨model, below.overlay c.layer, known, valid⟩ := by
  rw [run, compiler_of_valid loaded valid, read, columns]
  rfl

/-- Reading columns never fails for the sake of options. -/
theorem sourceFiles_ne_options {path : String} (error : OptionError) :
    files.sourceFiles path ≠ .error (.options error) := by
  unfold Files.sourceFiles
  split
  · simp
  · split <;> simp

/-- What comes of a compiler never fails for the sake of options. -/
theorem outcome_ne_options (compiler : Compiler) (error : OptionError) :
    (c.outcome files compiler).failure ≠ some (.options error) := by
  -- A text is written or handed out, or a report is made, and each has failures of its own.
  have handedOut : ∀ text, (c.textOutcome files text).failure ≠ some (.options error) := by
    intro text
    unfold textOutcome
    split
    · simp
    · split_ifs <;> simp
  have reported : ∀ faults, (reportOutcome faults).failure ≠ some (.options error) := by
    intro faults
    unfold reportOutcome
    split_ifs <;> simp
  unfold outcome
  split
  -- The report is the one product that is no text.
  case h_5 => exact reported _
  all_goals
    dsimp only
    split
    · exact handedOut _
    · simp

/-- Nothing behind valid options fails for their limits. -/
theorem failure_of_valid (loaded : c.lowerOptions files env = .ok below)
    (valid : (below.overlay c.layer).problems = []) (error : OptionError) :
    (c.run files env).failure ≠ some (.options error) := by
  -- What may fail behind the options is the model, the columns, or what comes of them.
  rw [run, compiler_of_valid loaded valid]
  cases files.model c.model with
  | error reason => simp [Except.mapError, Bind.bind, Except.bind]
  | ok model =>
    cases columns : c.columns.mapM files.sourceFiles with
    | error reason =>
      -- Only a file of columns that is named may fail to be read.
      cases named : c.columns with
      | none => simp [named, Pure.pure, Except.pure] at columns
      | some path =>
        have failed : files.sourceFiles path = .error reason := by
          cases told : files.sourceFiles path with
          | error other => simpa [named, told, Functor.map, Except.map] using columns
          | ok known => simp [named, told, Functor.map, Except.map] at columns
        intro same
        cases same
        exact sourceFiles_ne_options error failed
    | ok known => exact outcome_ne_options _ _

/-- A request that words make has the layer that they tell. -/
theorem told_of_ofWords {words : List String} (made : ofWords words = .ok c) :
    ∃ a : Arguments, Arguments.takeAll {} none words = .ok a ∧ a.layer = c.layer := by
  obtain ⟨a, taken, rest⟩ := bind_eq_ok_iff.mp made
  refine ⟨a, taken, ?_⟩
  -- The request takes the layer over, once there is a model.
  split at rest
  · rename_i command finished
    obtain ⟨model, _, filled⟩ := Option.bind_eq_some_iff.mp finished
    cases rest
    cases filled
    rfl
  · cases rest

/-- The layer of a request holds what its words say about options, and a file of options shuts out
the environment. The layer stands above what is loaded below, and the result is what everything is
made with unless it breaks a limit. -/
theorem run_layered (c : Command) (files : Files) :
    (∀ words, Command.ofWords words = .ok c →
      (∃ said, Spells words said) ∧
        ∀ said, Spells words said → OptionLayer.Told {} said c.layer) ∧
      (c.config ≠ none → ∀ env other, c.run files env = c.run files other) ∧
      ∀ env below, c.lowerOptions files env = .ok below →
        ∃ o : LoadOptions, o.Layered c.layer below ∧
          ((∃ problems, (c.run files env).failure = some (.options (.outOfRange problems))) ↔
            o.batchSize = 0 ∨ o.sourceName = "") ∧
          (o.problems ≠ [] →
            c.run files env = { failure := some (.options (.outOfRange o.problems)) }) ∧
          ∀ valid : o.problems = [], ∀ model known, files.model c.model = .ok model →
            c.columns.mapM files.sourceFiles = .ok known →
            c.run files env = c.outcome files ⟨model, o, known, valid⟩ := by
  refine ⟨?_, ?_, ?_⟩
  · -- The words were taken, so they spell something, and are taken as any spelling of them says.
    intro words made
    obtain ⟨a, taken, same⟩ := told_of_ofWords made
    constructor
    · exact Arguments.spells_of_takeAll taken
    · intro said spelt
      rw [Arguments.takeAll_of_spells spelt] at taken
      exact same ▸ Arguments.told_of_foldlM taken
  · -- The options are all that could depend on the environment.
    intro named env other
    rw [run, run, compiler, compiler, options_congr named]
  · -- The options in use are those below with the layer above them.
    intro env below loaded
    refine ⟨below.overlay c.layer, LoadOptions.layered_overlay below c.layer, ?_,
      run_of_problems loaded, fun valid model known => run_of_valid loaded valid⟩
    rw [← LoadOptions.problems_ne_nil_iff]
    constructor
    · rintro ⟨problems, failed⟩ valid
      exact failure_of_valid loaded valid _ failed
    · intro broken
      exact ⟨_, by rw [run_of_problems loaded broken]⟩

/-- A size that is the usual one is given all the same, and stands above what lies below. -/
example : (ofWords ["--batch-size", "100", "garden.yaml", "--no-strict-typing"]).toOption.map
    Command.layer = some { strictTyping := some false, batchSize := some 100 } := by
  decide

end Command

end GraphLoad
