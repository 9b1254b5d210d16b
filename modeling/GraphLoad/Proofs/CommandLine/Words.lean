import GraphLoad.CommandLine.Arguments
import GraphLoad.Proofs.Traversal
import Mathlib.Data.List.TakeWhile

/-! The words of a command line spell a list of sayings. The grammar stands beside the code that
takes the words one by one, and the two agree. -/

namespace GraphLoad

/-- What a command line says with one option or one path. -/
inductive Saying where
  /-- Values are left as they are read. -/
  | untyped
  /-- An option has a value. -/
  | option (name value : String)
  /-- The model is in a file. -/
  | model (path : String)
deriving DecidableEq, Repr

/-- A word that says something on its own. -/
inductive Saying.Word : String → Saying → Prop where
  /-- An option that does without a value. -/
  | untyped : Word "--no-strict-typing" .untyped
  /-- A long option with its value behind an equals sign. -/
  | assigned (name value : String) (plain : '=' ∉ name.toList) :
    Word ("--" ++ name ++ "=" ++ value) (.option name value)
  /-- The short option with its value right behind it. -/
  | joined (value : String) (present : value ≠ "") (plain : value.toList.head? ≠ some '=') :
    Word ("-o" ++ value) (.option "out" value)
  /-- The short option with its value behind an equals sign. -/
  | shortAssigned (value : String) : Word ("-o=" ++ value) (.option "out" value)
  /-- A word that is no option. -/
  | model (path : String) (plain : Arguments.isValue path = true) : Word path (.model path)

/-- A word that names an option whose value is the next word. -/
inductive Saying.Opening : String → String → Prop where
  /-- A long option. -/
  | long (name : String) (known : name ∈ Arguments.valued) : Opening ("--" ++ name) name
  /-- The short option. -/
  | short : Opening "-o" "out"

/-- Words that spell sayings in their order. -/
inductive Spells : List String → List Saying → Prop where
  /-- No words say nothing. -/
  | nothing : Spells [] []
  /-- A word says something on its own. -/
  | word {word : String} {saying : Saying} {rest : List String} {said : List Saying}
    (first : Saying.Word word saying) (others : Spells rest said) :
    Spells (word :: rest) (saying :: said)
  /-- An option stands in front of its value. -/
  | option {word name value : String} {rest : List String} {said : List Saying}
    (opening : Saying.Opening word name) (plain : Arguments.isValue value = true)
    (others : Spells rest said) : Spells (word :: value :: rest) (.option name value :: said)
  /-- Behind two dashes no word is an option. -/
  | paths (paths : List String) : Spells ("--" :: paths) (paths.map .model)

namespace Arguments

variable {a b : Arguments} {word : String}

/-- Takes in what is said. -/
def hear (a : Arguments) : Saying → Except Stop Arguments
  | .untyped =>
    match once? a.layer.strictTyping (some false) with
    | some strictTyping => .ok { a with layer.strictTyping := strictTyping }
    | none => .error .usage
  | .option name value => a.set name value
  | .model path => a.setModel path

/-- Nothing is told twice. -/
theorem once?_eq_some_iff {β : Type} {old new : Option β} {result : Option β} :
    once? old new = some result ↔ old = none ∧ new.isSome = true ∧ result = new := by
  cases old <;> cases new <;> simp [once?, eq_comm]

/-- The characters of a text without a character are others than this one. -/
theorem forall_bne_of_not_mem {mark : Char} {text : List Char} (absent : mark ∉ text) :
    ∀ c ∈ text, (c != mark) = true := by
  intro c member
  rw [bne_iff_ne]
  rintro rfl
  exact absent member

/-- The name of a long option ends at the first equals sign, where its value begins. -/
theorem takeLong_assigned (a : Arguments) (name value : String) (plain : '=' ∉ name.toList) :
    a.takeLong (name.toList ++ '=' :: value.toList) = (a.set name value).map (·, none) := by
  -- The name is all in front of the sign, as it holds none itself.
  have before := forall_bne_of_not_mem plain
  have front : (name.toList ++ '=' :: value.toList).takeWhile (· != '=') = name.toList := by
    rw [List.takeWhile_append_of_pos before]
    simp
  have back : (name.toList ++ '=' :: value.toList).dropWhile (· != '=') = '=' :: value.toList := by
    rw [List.dropWhile_append_of_pos before]
    simp
  rw [takeLong, back, front]
  simp only [String.ofList_toList]

/-- A long option without an equals sign is its name alone. -/
theorem takeLong_alone (a : Arguments) (name : String) (plain : '=' ∉ name.toList) :
    a.takeLong name.toList =
      if name = "help" ∨ name = "version" then .error .information
      else if name = "no-strict-typing" then (a.hear .untyped).map (·, none)
      else if valued.contains name then .ok (a, some name)
      else .error .usage := by
  -- No sign is found, so that the name is everything and nothing is behind it.
  have before := forall_bne_of_not_mem plain
  have front : name.toList.takeWhile (· != '=') = name.toList :=
    List.takeWhile_eq_self_iff.mpr before
  have back : name.toList.dropWhile (· != '=') = [] := List.dropWhile_eq_nil_iff.mpr before
  rw [takeLong, back, front, String.ofList_toList, hear]
  cases once? a.layer.strictTyping (some false) <;> rfl

/-- No option that waits for a value has an equals sign in its name, or does without a value. -/
theorem valued_plain : ∀ name ∈ valued, '=' ∉ name.toList ∧
    ¬(name = "help" ∨ name = "version") ∧ name ≠ "no-strict-typing" := by
  decide

/-- A word that starts with two dashes is a long option. -/
theorem take_long {text : List Char} (spelling : word.toList = '-' :: '-' :: text) :
    a.take word = a.takeLong text := by
  -- Of the three forms a word can have, this is the first.
  unfold take
  split <;> simp_all

/-- A word that starts with a single dash is a short option. -/
theorem take_short {c : Char} {text : List Char} (spelling : word.toList = '-' :: c :: text)
    (single : '-' ≠ c) : a.take word = a.takeShort (c :: text) := by
  -- The first form would need another dash.
  unfold take
  split <;> simp_all

/-- A word that may be a value starts no option. -/
theorem take_of_isValue (plain : isValue word = true) :
    a.take word = (a.setModel word).map (·, none) := by
  -- Either the word is a dash alone, or it does not start with one.
  rw [isValue, Bool.or_eq_true, decide_eq_true_eq, bne_iff_ne] at plain
  rcases plain with rfl | plain
  · rfl
  · unfold take
    split <;> simp_all

/-- A word that says something is taken as it says. -/
theorem take_word {saying : Saying} (spelt : Saying.Word word saying) :
    a.take word = (a.hear saying).map (·, none) := by
  -- The form of the word decides which of the readers it comes to.
  cases spelt with
  | untyped => exact takeLong_alone a "no-strict-typing" (by decide)
  | assigned name value plain =>
    have spelling : ("--" ++ name ++ "=" ++ value).toList =
        '-' :: '-' :: (name.toList ++ '=' :: value.toList) := by simp
    exact (take_long spelling).trans (takeLong_assigned a name value plain)
  | joined value present plain =>
    have spelling : ("-o" ++ value).toList = '-' :: 'o' :: value.toList := by simp
    rw [take_short spelling (by decide)]
    -- The value has a first character, which is not the equals sign.
    cases front : value.toList with
    | nil => exact absurd (String.toList_eq_nil_iff.mp front) present
    | cons c rest =>
      have other : c ≠ '=' := fun same => plain (by rw [front, same]; rfl)
      have whole : String.ofList (c :: rest) = value := by rw [← front, String.ofList_toList]
      simp [takeShort, hear, other, whole]
  | shortAssigned value =>
    have spelling : ("-o=" ++ value).toList = '-' :: 'o' :: '=' :: value.toList := by simp
    rw [take_short spelling (by decide)]
    simp [takeShort, hear]
  | model path plain => exact take_of_isValue plain

/-- A word that names an option leaves it waiting for its value. -/
theorem take_opening {name : String} (opening : Saying.Opening word name) :
    a.take word = .ok (a, some name) := by
  cases opening with
  | short => rfl
  | long _ known =>
    -- The options that do not wait for a value are excluded one by one.
    obtain ⟨plain, noInformation, typed⟩ := valued_plain name known
    have spelling : ("--" ++ name).toList = '-' :: '-' :: name.toList := by simp
    rw [take_long spelling, takeLong_alone a name plain, if_neg noInformation, if_neg typed,
      if_pos (List.contains_iff_mem.mpr known)]

/-- What a word is that was taken: it says something, or it waits for its value. -/
def Reads (word : String) : Option String → Prop
  | none => ∃ saying, Saying.Word word saying
  | some name => Saying.Opening word name

/-- A word that says something does not wait for a value. -/
theorem reads_of_word {saying : Saying} {waiting : Option String}
    (spelt : Saying.Word word saying) (taken : a.take word = .ok (b, waiting)) :
    Reads word waiting := by
  -- Where it is taken in, nothing is left that waits.
  rw [take_word spelt] at taken
  obtain ⟨c, _, same⟩ := map_eq_ok_iff.mp taken
  cases same
  exact ⟨saying, spelt⟩

/-- A word that starts with two dashes and was taken is a long option. -/
theorem reads_of_long {text : List Char} {waiting : Option String}
    (spelling : word.toList = '-' :: '-' :: text) (taken : a.take word = .ok (b, waiting)) :
    Reads word waiting := by
  by_cases assigned : '=' ∈ text
  · -- The value begins behind the first equals sign.
    obtain ⟨name, value, rfl, plain⟩ := List.eq_append_cons_of_mem assigned
    have whole : "--" ++ String.ofList name ++ "=" ++ String.ofList value = word := by
      simp [← String.toList_inj, spelling]
    have spelt : Saying.Word word (.option (.ofList name) (.ofList value)) :=
      whole ▸ Saying.Word.assigned _ _ (by rwa [String.toList_ofList])
    exact reads_of_word spelt taken
  · -- The name is known, or the word would not have been taken.
    obtain ⟨name, rfl⟩ : ∃ name : String, name.toList = text := ⟨.ofList text, String.toList_ofList⟩
    obtain rfl : "--" ++ name = word := by simp [← String.toList_inj, spelling]
    have alone := taken
    rw [take_long spelling, takeLong_alone a name assigned] at alone
    split_ifs at alone with information typed known
    · subst typed
      exact reads_of_word .untyped taken
    · cases alone
      exact .long name (List.contains_iff_mem.mp known)

/-- A word that starts with a single dash and was taken is the short option. -/
theorem reads_of_short {c : Char} {text : List Char} {waiting : Option String}
    (spelling : word.toList = '-' :: c :: text) (single : '-' ≠ c)
    (taken : a.take word = .ok (b, waiting)) : Reads word waiting := by
  -- The letter is one of three, and two of them ask for information.
  have short := taken
  rw [take_short spelling single] at short
  unfold takeShort at short
  split at short
  · -- Nothing is behind the letter.
    obtain rfl : "-o" = word := by simp_all [← String.toList_inj]
    cases short
    exact .short
  · rename_i value same
    obtain rfl : "-o=" ++ String.ofList value = word := by simp_all [← String.toList_inj]
    exact reads_of_word (.shortAssigned _) taken
  · -- The value is right behind the letter: the two forms above have been ruled out.
    rename_i value notAlone notAssigned same
    obtain rfl : "-o" ++ String.ofList value = word := by simp_all [← String.toList_inj]
    refine reads_of_word (.joined _ ?_ ?_) taken
    · simpa using notAlone
    · intro front
      rw [String.toList_ofList] at front
      obtain ⟨behind, assigned⟩ := List.head?_eq_some_iff.mp front
      exact notAssigned behind assigned
  · cases short
  · cases short
  · cases short

/-- A word that was taken says something or waits for its value. -/
theorem reads_of_take {waiting : Option String} (taken : a.take word = .ok (b, waiting)) :
    Reads word waiting := by
  by_cases plain : isValue word = true
  · exact reads_of_word (.model word plain) taken
  · -- The word starts with a dash and goes on behind it.
    obtain ⟨c, text, spelling⟩ : ∃ c text, word.toList = '-' :: c :: text := by
      rw [isValue, Bool.or_eq_true, decide_eq_true_eq, bne_iff_ne, not_or, not_not] at plain
      obtain ⟨behind, front⟩ := List.head?_eq_some_iff.mp plain.2
      cases behind with
      | nil => exact absurd (String.toList_inj.mp front) plain.1
      | cons c text => exact ⟨c, text, front⟩
    by_cases single : '-' = c
    · subst single
      exact reads_of_long spelling taken
    · exact reads_of_short spelling single taken

/-- A word other than two dashes is taken before the words behind it. -/
theorem takeAll_cons (a : Arguments) (other : word ≠ "--") (rest : List String) :
    a.takeAll none (word :: rest) =
      (a.take word).bind fun taken => taken.1.takeAll taken.2 rest := by
  -- The equation for two dashes comes first, and does not apply.
  rw [takeAll]
  · rfl
  · exact other

/-- Two dashes say nothing. -/
theorem ne_dashes_of_word {saying : Saying} (spelt : Saying.Word word saying) : word ≠ "--" := by
  -- Every form is longer, apart from a path, which starts with no dash or is a single one.
  intro dashes
  have letters := congrArg String.toList dashes
  cases spelt with
  | model path plain =>
    subst dashes
    exact absurd plain (by decide)
  | _ => simp at letters

/-- Two dashes name no option. -/
theorem ne_dashes_of_opening {name : String} (opening : Saying.Opening word name) :
    word ≠ "--" := by
  intro dashes
  have letters := congrArg String.toList dashes
  cases opening with
  | long _ known =>
    -- No option has an empty name.
    obtain rfl : name = "" := by simpa using letters
    exact absurd known (by decide)
  | short => simp at letters

/-- Words that spell sayings are taken as they say, in their order. -/
theorem takeAll_of_spells {words : List String} {said : List Saying} (spelt : Spells words said) :
    a.takeAll none words = said.foldlM hear a := by
  -- By the grammar: each step of it is one word, or an option with its value.
  induction spelt generalizing a with
  | nothing => rfl
  | @word word saying rest said first others ih =>
    rw [takeAll_cons a (ne_dashes_of_word first), take_word first, List.foldlM_cons]
    cases a.hear saying with
    | error stop => rfl
    | ok b => exact ih
  | @option word name value rest said opening plain others ih =>
    -- The first word leaves the option waiting, and the second is its value.
    rw [takeAll_cons a (ne_dashes_of_opening opening), take_opening opening, List.foldlM_cons]
    change a.takeAll (some name) (value :: rest) = _
    rw [takeAll, if_pos plain, hear]
    cases a.set name value with
    | error stop => rfl
    | ok b => exact ih
  | paths paths =>
    -- The paths are taken one by one, as sayings about the model are.
    rw [List.foldlM_map]
    rfl

/-- Words that were taken spell something, the first of them apart where it is a value. -/
theorem spells_of_takeAll {words : List String} {waiting : Option String}
    (taken : a.takeAll waiting words = .ok b) :
    match waiting with
    | none => ∃ said, Spells words said
    | some _ => ∃ value rest said, words = value :: rest ∧ isValue value = true ∧
        Spells rest said := by
  -- One word at a time; what a word waits for is the first of the words behind it.
  induction words generalizing a waiting with
  | nil =>
    cases waiting with
    | none => exact ⟨[], .nothing⟩
    | some name => cases taken
  | cons word rest ih =>
    cases waiting with
    | some name =>
      -- The value of an option is this word alone, and the words behind it are spelt anew.
      rw [takeAll] at taken
      split_ifs at taken with plain
      obtain ⟨c, _, later⟩ := bind_eq_ok_iff.mp taken
      obtain ⟨said, others⟩ := ih later
      exact ⟨word, rest, said, rfl, plain, others⟩
    | none =>
      by_cases dashes : word = "--"
      · subst dashes
        exact ⟨_, .paths rest⟩
      · rw [takeAll_cons a dashes] at taken
        obtain ⟨⟨c, waiting⟩, first, later⟩ := bind_eq_ok_iff.mp taken
        -- This word says something by itself, or it is an option that waits.
        have reading := reads_of_take first
        cases waiting with
        | none =>
          obtain ⟨saying, spelt⟩ := reading
          obtain ⟨said, others⟩ := ih later
          exact ⟨saying :: said, .word spelt others⟩
        | some name =>
          obtain ⟨value, behind, said, rfl, plain, others⟩ := ih later
          exact ⟨.option name value :: said, .option reading plain others⟩

end Arguments

end GraphLoad
