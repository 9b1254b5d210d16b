import GraphLoad.Loading.Options
import GraphLoad.Proofs.CommandLine.Layers
import GraphLoad.Proofs.Text.Blank
import GraphLoad.Proofs.Text.Count

/-! Options from the environment: which variables are understood, what they set, and which variable
is complained about where some are not understood. -/

namespace GraphLoad

namespace Environment

/-- A text that tells a truth value, which it does in one way only. -/
def TellsFlag (text : String) (value : Bool) : Prop :=
  text = "true" ∧ value = true ∨ text = "false" ∧ value = false

/-- A text that tells a way of submission: its name in letters of either case, with or without
blanks around it. -/
def TellsMethod (text : String) (method : Submission) : Prop :=
  ∃ front word back, text.toList = front ++ (word ++ back) ∧
    (∀ c ∈ front, isBlank c = true) ∧ (∀ c ∈ back, isBlank c = true) ∧
    lowerLatin word = method.name.toList

/-- A text that tells a count, by writing its number. -/
def TellsCount (text : String) (count : UInt32) : Prop :=
  WritesNumber text.toList count.toNat

end Environment

namespace Submission

/-- What is spelt has no blank at either end, for letters are small or capital and blanks neither.
-/
theorem trimBlanks_of_small {method : Submission} {front word back : List Char}
    (before : ∀ c ∈ front, isBlank c = true) (behind : ∀ c ∈ back, isBlank c = true)
    (small : lowerLatin word = method.name.toList) :
    trimBlanks (front ++ (word ++ back)) = word := by
  -- A character whose small form stands in a name is no blank.
  have letters : ∀ c ∈ word, isBlank c = false := by
    intro c member
    have named : c.toLower ∈ method.name.toList := small ▸ List.mem_map_of_mem member
    have letters : method.name.toList.all (!isBlank ·) = true := by cases method <;> decide
    exact isBlank_of_toLower (by simpa using List.all_eq_true.mp letters _ named)
  have nonempty : word ≠ [] := by
    rintro rfl
    cases method <;> cases small
  exact trimBlanks_append before behind nonempty (fun c head => letters c (List.mem_of_head? head))
    fun c last => letters c (List.mem_of_getLast? last)

/-- A text is taken for a way of submission exactly where it names this one. -/
theorem ofText?_eq_some_iff {method : Submission} {text : String} :
    ofText? text = some method ↔ Environment.TellsMethod text method := by
  -- What is looked at is the text without blanks, in small letters.
  have looked : ofText? text = some method ↔
      lowerLatin (trimBlanks text.toList) = method.name.toList := by
    unfold ofText?
    dsimp only
    split_ifs with first second
    · rw [first]
      cases method <;> decide
    · rw [second]
      cases method <;> decide
    · cases method <;> simp [first, second]
  rw [looked]
  -- Trimming cuts off the blanks at both ends, and a name has none to lose.
  constructor
  · intro small
    obtain ⟨front, back, split, before, behind⟩ := exists_trimBlanks text.toList
    exact ⟨front, _, back, split, before, behind, small⟩
  · rintro ⟨front, word, back, split, before, behind, small⟩
    rw [split, trimBlanks_of_small before behind small, small]

end Submission

namespace Environment

/-- The value that a variable gives: the default where it is not set, and otherwise what its text
tells. -/
inductive Gives {β : Type} (env : Environment) (name : String) (tells : String → β → Prop)
    (default : β) : β → Prop where
  /-- The variable is not set. -/
  | unset (missing : env name = none) : Gives env name tells default default
  /-- It is set, to a text that tells the value. -/
  | set {text : String} {value : β} (present : env name = some text) (said : tells text value) :
      Gives env name tells default value

/-- The options that variables set, limits apart. -/
structure Sets (env : Environment) (o : LoadOptions) : Prop where
  /-- Values are converted unless a variable tells otherwise. -/
  strictTyping : env.Gives strictTypingVariable TellsFlag true o.strictTyping
  /-- Statements go through a driver unless a variable names another way. -/
  method : env.Gives methodVariable TellsMethod .api o.method
  /-- A transaction takes a hundred rows unless a variable writes another number. -/
  batchSize : env.Gives batchSizeVariable TellsCount 100 o.batchSize
  /-- The name of the file is taken as it is. -/
  sourceName : o.sourceName = (env sourceNameVariable).getD "file.csv"
  /-- So is the directory. -/
  fileDirectory : o.fileDirectory = (env fileDirectoryVariable).getD ""

/-- Variables that are understood and keep the limits. Any directory will do. -/
structure Understood (env : Environment) : Prop where
  /-- A truth value is one of two words. -/
  strictTyping : ∀ text, env strictTypingVariable = some text → text = "true" ∨ text = "false"
  /-- A way of submission is its name, in letters of either case, with or without blanks around. -/
  method : ∀ text, env methodVariable = some text → ∃ method, TellsMethod text method
  /-- A number of rows is written in decimal digits, with or without a plus sign in front, and lies
  between one and what 32 bits hold. -/
  batchSize : ∀ text, env batchSizeVariable = some text →
    ∃ n, WritesNumber text.toList n ∧ 1 ≤ n ∧ n < UInt32.size
  /-- The file has a name. -/
  sourceName : ∀ text, env sourceNameVariable = some text → text ≠ ""

/-- How the options of an environment fail to load. Of the variables that are not understood the
first counts, and limits are looked at once all are. -/
inductive Fails (env : Environment) : OptionError → Prop where
  /-- The truth value is neither of the two words. -/
  | notFlag {text : String} (present : env strictTypingVariable = some text)
      (other : text ≠ "true" ∧ text ≠ "false") : Fails env (.notFlag strictTypingVariable text)
  /-- The truth value is understood, and the way of submission is not. -/
  | notMethod {typed : Bool} {text : String}
      (flag : env.Gives strictTypingVariable TellsFlag true typed)
      (present : env methodVariable = some text) (other : ∀ method, ¬TellsMethod text method) :
      Fails env (.notMethod methodVariable text)
  /-- These two are understood, and the number of rows is not. -/
  | notCount {typed : Bool} {method : Submission} {text : String} {reason : CountError}
      (flag : env.Gives strictTypingVariable TellsFlag true typed)
      (named : env.Gives methodVariable TellsMethod .api method)
      (present : env batchSizeVariable = some text) (other : NotCount text.toList reason) :
      Fails env (.notCount batchSizeVariable text reason)
  /-- All are understood, and what they set breaks a limit. -/
  | outOfRange {o : LoadOptions} (sets : env.Sets o)
      (broken : o.batchSize = 0 ∨ o.sourceName = "") : Fails env (.outOfRange o.problems)

variable {env : Environment} {name : String}

section Gives

variable {β : Type} {tells : String → β → Prop} {default value : β} {text : String}

/-- A variable that is not set gives the default. -/
theorem gives_iff_of_unset (missing : env name = none) :
    env.Gives name tells default value ↔ default = value := by
  -- There is no text that could tell a value.
  constructor
  · rintro (_ | ⟨present, _⟩)
    · rfl
    · cases missing.symm.trans present
  · rintro rfl
    exact .unset missing

/-- A variable that is set gives what its text tells. -/
theorem gives_iff_of_set (present : env name = some text) :
    env.Gives name tells default value ↔ tells text value := by
  -- The text is the only one that the variable is set to.
  constructor
  · rintro (missing | ⟨there, said⟩)
    · cases missing.symm.trans present
    · cases there.symm.trans present
      exact said
  · exact .set present

/-- A variable gives some value if its text tells one where it is set. -/
theorem exists_gives (default : β)
    (each : ∀ text, env name = some text → ∃ value, tells text value) :
    ∃ value, env.Gives name tells default value := by
  -- Where it is not set, the default will do.
  cases present : env name with
  | none => exact ⟨default, .unset present⟩
  | some text =>
    obtain ⟨value, said⟩ := each text present
    exact ⟨value, .set present said⟩

end Gives

/-- A truth value is read where the variable gives it. -/
theorem flag_eq_ok_iff {default value : Bool} :
    env.flag name default = .ok value ↔ env.Gives name TellsFlag default value := by
  unfold flag
  split
  · rename_i missing
    rw [gives_iff_of_unset missing, Except.ok.injEq]
  · -- Either word tells its own value and no other.
    rename_i present
    rw [gives_iff_of_set present, Except.ok.injEq]
    simp [TellsFlag, eq_comm]
  · rename_i present
    rw [gives_iff_of_set present, Except.ok.injEq]
    simp [TellsFlag, eq_comm]
  · rename_i text notTrue notFalse present
    rw [gives_iff_of_set present]
    -- A text that tells a value is one of the two words.
    refine iff_of_false (fun read => nomatch read) ?_
    rintro (⟨word, _⟩ | ⟨word, _⟩)
    · exact notTrue (word ▸ rfl)
    · exact notFalse (word ▸ rfl)

/-- A variable that is set to no truth value is refused as such. -/
theorem flag_eq_error_iff {default : Bool} {e : OptionError} :
    env.flag name default = .error e ↔
      ∃ text, env name = some text ∧ (text ≠ "true" ∧ text ≠ "false") ∧ .notFlag name text = e := by
  unfold flag
  split
  · rename_i missing
    simp [missing]
  · rename_i present
    simp [present]
  · rename_i present
    simp [present]
  · rename_i text notTrue notFalse present
    simp only [present, Except.error.injEq, Option.some.injEq, exists_eq_left']
    -- The text is neither of the two words, or it would have been read.
    have other : text ≠ "true" ∧ text ≠ "false" :=
      ⟨fun word => notTrue (word ▸ rfl), fun word => notFalse (word ▸ rfl)⟩
    exact ⟨fun same => ⟨other, same⟩, fun refused => refused.2⟩

/-- A way of submission is read where the variable gives it. -/
theorem submission_eq_ok_iff {default method : Submission} :
    env.submission name default = .ok method ↔ env.Gives name TellsMethod default method := by
  unfold submission
  -- A text that is set names the way that it is looked up as.
  cases present : env name with
  | none => rw [gives_iff_of_unset present, Except.ok.injEq]
  | some text =>
    rw [gives_iff_of_set present, ← Submission.ofText?_eq_some_iff]
    cases found : Submission.ofText? text <;> simp [found]

/-- A variable that names no way of submission is refused as such. -/
theorem submission_eq_error_iff {default : Submission} {e : OptionError} :
    env.submission name default = .error e ↔
      ∃ text, env name = some text ∧ (∀ method, ¬TellsMethod text method) ∧
        .notMethod name text = e := by
  simp only [← Submission.ofText?_eq_some_iff]
  unfold submission
  -- Only a text that is set can be refused.
  cases env name with
  | none => simp
  | some text => cases found : Submission.ofText? text <;> simp [found]

/-- A count is read where the variable gives it. -/
theorem count_eq_ok_iff {default size : UInt32} :
    env.count name default = .ok size ↔ env.Gives name TellsCount default size := by
  unfold count
  -- A text that is set is read as the count that it writes.
  cases present : env name with
  | none => rw [gives_iff_of_unset present, Except.ok.injEq]
  | some text =>
    rw [gives_iff_of_set present, TellsCount, ← readCount_eq_ok_iff]
    cases found : readCount text.toList <;> simp [found, Except.mapError]

/-- A variable that is set to no count is refused for the reason why it is none. -/
theorem count_eq_error_iff {default : UInt32} {e : OptionError} :
    env.count name default = .error e ↔
      ∃ text reason, env name = some text ∧ NotCount text.toList reason ∧
        .notCount name text reason = e := by
  simp only [← readCount_eq_error_iff]
  unfold count
  -- Only a text that is set can be refused, for the reason why it writes no count.
  cases env name with
  | none => simp
  | some text => cases found : readCount text.toList <;> simp [found, Except.mapError]

/-- Options that all variables are understood to set are taken if they keep the limits. -/
theorem loadOptions_of_sets {o : LoadOptions} (sets : env.Sets o) :
    env.loadOptions = o.checked := by
  -- The file and the directory are taken as they are, and the other variables read.
  have same : o = ⟨o.strictTyping, o.method, o.batchSize,
      (env sourceNameVariable).getD "file.csv", (env fileDirectoryVariable).getD ""⟩ := by
    rw [← sets.sourceName, ← sets.fileDirectory]
  rw [loadOptions, flag_eq_ok_iff.mpr sets.strictTyping]
  change env.submission methodVariable .api >>= _ = _
  rw [submission_eq_ok_iff.mpr sets.method]
  change env.count batchSizeVariable 100 >>= _ = _
  rw [count_eq_ok_iff.mpr sets.batchSize]
  exact (congrArg LoadOptions.checked same).symm

/-- Options are loaded exactly where the variables set them and they keep the limits. -/
theorem loadOptions_eq_ok_iff {o : LoadOptions} :
    env.loadOptions = .ok o ↔ env.Sets o ∧ o.problems = [] := by
  constructor
  · intro loaded
    -- Three variables were read, and the limits looked at.
    simp only [loadOptions, bind_eq_ok_iff, flag_eq_ok_iff, submission_eq_ok_iff, count_eq_ok_iff,
      LoadOptions.checked_eq_ok_iff] at loaded
    obtain ⟨typed, flag, method, named, size, written, valid, rfl⟩ := loaded
    exact ⟨⟨flag, named, written, rfl, rfl⟩, valid⟩
  · rintro ⟨sets, valid⟩
    rw [loadOptions_of_sets sets, LoadOptions.checked_of_valid valid]

/-- Options fail to load exactly as the first variable that is not understood has it, or for the
limits they break. -/
theorem loadOptions_eq_error_iff {e : OptionError} : env.loadOptions = .error e ↔ env.Fails e := by
  constructor
  · intro failed
    -- One of the three variables stopped the reading, or the limits did.
    simp only [loadOptions, bind_eq_error_iff, flag_eq_ok_iff, flag_eq_error_iff,
      submission_eq_ok_iff, submission_eq_error_iff, count_eq_ok_iff, count_eq_error_iff,
      LoadOptions.checked_eq_error_iff] at failed
    obtain ⟨text, present, other, rfl⟩ | ⟨typed, flag, ⟨text, present, other, rfl⟩ |
      ⟨method, named, ⟨text, reason, present, other, rfl⟩ | ⟨size, written, broken, rfl⟩⟩⟩ := failed
    · exact .notFlag present other
    · exact .notMethod flag present other
    · exact .notCount flag named present other
    · exact .outOfRange ⟨flag, named, written, rfl, rfl⟩ (LoadOptions.problems_ne_nil_iff.mp broken)
  · intro fails
    -- The steps in front of the one that fails have succeeded, and no other is reached.
    cases fails with
    | notFlag present other =>
      exact bind_eq_error_iff.mpr (.inl (flag_eq_error_iff.mpr ⟨_, present, other, rfl⟩))
    | notMethod flag present other =>
      refine bind_eq_error_iff.mpr (.inr ⟨_, flag_eq_ok_iff.mpr flag, ?_⟩)
      exact bind_eq_error_iff.mpr (.inl (submission_eq_error_iff.mpr ⟨_, present, other, rfl⟩))
    | notCount flag named present other =>
      refine bind_eq_error_iff.mpr (.inr ⟨_, flag_eq_ok_iff.mpr flag, ?_⟩)
      refine bind_eq_error_iff.mpr (.inr ⟨_, submission_eq_ok_iff.mpr named, ?_⟩)
      exact bind_eq_error_iff.mpr (.inl (count_eq_error_iff.mpr ⟨_, _, present, other, rfl⟩))
    | outOfRange sets broken =>
      rw [loadOptions_of_sets sets,
        LoadOptions.checked_of_problems (LoadOptions.problems_ne_nil_iff.mpr broken)]

/-- Variables are understood exactly where they set options that keep the limits. -/
theorem understood_iff : env.Understood ↔ ∃ o, env.Sets o ∧ o.problems = [] := by
  constructor
  · intro understood
    obtain ⟨typed, flag⟩ : ∃ typed, env.Gives strictTypingVariable TellsFlag true typed := by
      refine exists_gives true fun text present => ?_
      rcases understood.strictTyping text present with word | word
      · exact ⟨true, .inl ⟨word, rfl⟩⟩
      · exact ⟨false, .inr ⟨word, rfl⟩⟩
    obtain ⟨method, named⟩ := exists_gives .api understood.method
    -- A number within the limits is a count, and not the count of nothing.
    obtain ⟨size, written, positive⟩ :
        ∃ size, env.Gives batchSizeVariable TellsCount 100 size ∧ size ≠ 0 := by
      cases present : env batchSizeVariable with
      | none => exact ⟨100, .unset present, by decide⟩
      | some text =>
        obtain ⟨n, writes, least, small⟩ := understood.batchSize text present
        have held : (UInt32.ofNat n).toNat = n := UInt32.toNat_ofNat_of_lt' small
        have told : TellsCount text (UInt32.ofNat n) := by
          rwa [TellsCount, held]
        refine ⟨UInt32.ofNat n, .set present told, ?_⟩
        intro zero
        rw [zero] at held
        change 0 = n at held
        omega
    refine ⟨⟨typed, method, size, (env sourceNameVariable).getD "file.csv",
      (env fileDirectoryVariable).getD ""⟩, ⟨flag, named, written, rfl, rfl⟩, ?_⟩
    -- The file has a name, whether it is set or not.
    have file : (env sourceNameVariable).getD "file.csv" ≠ "" := by
      cases present : env sourceNameVariable with
      | none => decide
      | some text => exact understood.sourceName text present
    exact LoadOptions.problems_eq_nil_iff.mpr ⟨positive, file⟩
  · rintro ⟨o, sets, valid⟩
    obtain ⟨positive, file⟩ := LoadOptions.problems_eq_nil_iff.mp valid
    constructor
    · intro text present
      exact ((gives_iff_of_set present).mp sets.strictTyping).imp And.left And.left
    · intro text present
      exact ⟨_, (gives_iff_of_set present).mp sets.method⟩
    · intro text present
      refine ⟨_, (gives_iff_of_set present).mp sets.batchSize, ?_, ?_⟩
      · exact Nat.pos_of_ne_zero fun zero => positive (UInt32.toNat_inj.mp zero)
      · exact o.batchSize.toNat_lt
    · intro text present
      rw [sets.sourceName, present] at file
      exact file

/-- Options load exactly from an environment that is understood, as those that its variables set
within the limits, and fail exactly as it fails. A number of rows beyond 32 bits is refused for its
size. -/
theorem loadOptions_language (env : Environment) :
    ((∃ o, env.loadOptions = .ok o) ↔ env.Understood) ∧
      (∀ o, env.loadOptions = .ok o ↔ env.Sets o ∧ o.batchSize ≠ 0 ∧ o.sourceName ≠ "") ∧
      (∀ e, env.loadOptions = .error e ↔ env.Fails e) ∧
      ∀ typed method text n, env.Gives strictTypingVariable TellsFlag true typed →
        env.Gives methodVariable TellsMethod .api method →
        env batchSizeVariable = some text → WritesNumber text.toList n → UInt32.size ≤ n →
        env.loadOptions = .error (.notCount batchSizeVariable text .tooLarge) := by
  refine ⟨?_, ?_, fun e => loadOptions_eq_error_iff, ?_⟩
  · simp only [loadOptions_eq_ok_iff, understood_iff]
  · simp only [loadOptions_eq_ok_iff, LoadOptions.problems_eq_nil_iff, implies_true]
  · -- The number is looked at once the two variables in front of it are understood.
    intro typed method text n flag named present writes large
    exact loadOptions_eq_error_iff.mpr (.notCount flag named present (writes.tooLarge large))

/-- The least number of more than 32 bits is refused for its size, behind a sign and zeros. -/
theorem loadOptions_language_tooLarge :
    loadOptions (fun name => [(batchSizeVariable, "+004294967296")].lookup name) =
      .error (.notCount batchSizeVariable "+004294967296" .tooLarge) := by
  -- Zeros in front do not add to the value.
  have writes : WritesNumber "+004294967296".toList UInt32.size :=
    ⟨by decide, List.all_eq_true.mp (by decide), by decide⟩
  have refused := (loadOptions_language fun name => [(batchSizeVariable, "+004294967296")].lookup
    name).2.2.2
  exact refused true .api _ _ (.unset rfl) (.unset rfl) rfl writes (Nat.le_refl _)

/-- Blanks, capitals, a sign and zeros are all understood at once. -/
example :
    (loadOptions fun name =>
      [(methodVariable, "\tBROWSER\u00a0"), (batchSizeVariable, "+0004294967295")].lookup
        name).toOption = some { method := .browser, batchSize := 4294967295 } := by
  decide

end Environment

end GraphLoad
