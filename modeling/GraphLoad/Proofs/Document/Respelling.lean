import GraphLoad.Proofs.Document.ReadBack
import Mathlib.Data.List.Nodup
import Mathlib.Data.List.Pairwise
import Mathlib.Logic.Relation

/-! Documents that say one thing in different ways are read alike: fields under their older names,
other spellings of a type, defaults that are written out or left out, and fields in any order. -/

namespace GraphLoad

open Format

/-- A field of a record: the names it may stand under, and what says the same in its place. -/
structure FieldForm where
  /-- The names of the field. -/
  spellings : List String
  /-- The values that say no more than a field that is left out. -/
  isDefault : Value → Prop := fun _ => False
  /-- The values that say the same as another one. -/
  respells : Value → Value → Prop := fun _ _ => False

/-- What may be written in place of an entry of a record that gives a field. -/
inductive FieldForm.Replaces (field : FieldForm) :
    String × Value → List (String × Value) → Prop where
  /-- The field may stand under another of its names. -/
  | renamed {name other : String} {v : Value} (before : name ∈ field.spellings)
      (after : other ∈ field.spellings) : Replaces field (name, v) [(other, v)]
  /-- Its value may be said in another way. -/
  | respelt {name : String} {v w : Value} (named : name ∈ field.spellings)
      (same : field.respells v w) : Replaces field (name, v) [(name, w)]
  /-- A default may be left out. -/
  | dropped {name : String} {v : Value} (named : name ∈ field.spellings)
      (default : field.isDefault v) : Replaces field (name, v) []

/-- One change to a record with the given fields that leaves what it says. -/
inductive Respells (form : List FieldForm) : Value → Value → Prop where
  /-- An entry is replaced. -/
  | entry {field : FieldForm} {old : String × Value} {new : List (String × Value)}
      (front back : List (String × Value)) (known : field ∈ form)
      (change : field.Replaces old new) :
      Respells form (.record (front ++ old :: back)) (.record (front ++ (new ++ back)))
  /-- An entry that gives no field is passed over, whatever its value. -/
  | ignored {front back : List (String × Value)} {name : String} {v w : Value}
      (unknown : ∀ field ∈ form, name ∉ field.spellings) :
      Respells form (.record (front ++ (name, v) :: back)) (.record (front ++ (name, w) :: back))
  /-- Entries come in any order. -/
  | permuted {entries others : List (String × Value)} (same : entries.Perm others) :
      Respells form (.record entries) (.record others)
  /-- In a record without names, the value of a field is respelt at its place. -/
  | placed {before after : List FieldForm} {field : FieldForm} {front back : List Value}
      {v w : Value} (fields : form = before ++ field :: after)
      (place : front.length = before.length) (same : field.respells v w) :
      Respells form (.list (front ++ v :: back)) (.list (front ++ w :: back))
  /-- In a record without names, a default at the end is left out. -/
  | shortened {before after : List FieldForm} {field : FieldForm} {front : List Value} {v : Value}
      (fields : form = before ++ field :: after) (place : front.length = before.length)
      (default : field.isDefault v) : Respells form (.list (front ++ [v])) (.list front)

/-- One change to an item of a list. -/
inductive ItemRespells (step : Value → Value → Prop) : Value → Value → Prop where
  | item {front back : List Value} {v w : Value} (change : step v w) :
      ItemRespells step (.list (front ++ v :: back)) (.list (front ++ w :: back))

/-- A field that has to be there and can be said in one way. -/
def requiredField (name : String) : FieldForm where
  spellings := [name]

/-- A field with a default that can be said in one way. -/
def defaultField (name : String) (default : Value) : FieldForm where
  spellings := [name]
  isDefault := (· = default)

/-- A field that holds a list of records, by default an empty one. -/
def listField (name : String) (form : List FieldForm) : FieldForm where
  spellings := [name]
  isDefault := (· = .list [])
  respells := ItemRespells (Respells form)

/-- A field that names a value type, by default that of texts. -/
def typeField : FieldForm where
  spellings := ["type"]
  isDefault v := ∃ spelling, v = .text spelling ∧ ValueType.ofName spelling = .text
  respells v w := ∃ spelling other, v = .text spelling ∧ w = .text other ∧
    ValueType.ofName spelling = ValueType.ofName other

/-- The field of a property's column, which has an older name. -/
def columnField : FieldForm where
  spellings := ["column_mapping", "csv_mapping"]

/-- The fields of a property. -/
def propertyForm : List FieldForm :=
  [requiredField "name", columnField, typeField, defaultField "alias" .null,
    defaultField "is_unique" (.flag false), defaultField "part_of_key" (.flag false)]

/-- The fields of a node. -/
def nodeForm : List FieldForm :=
  [requiredField "label", listField "properties" propertyForm, defaultField "source_name" .null]

/-- The fields of a relationship. -/
def relationshipForm : List FieldForm :=
  [requiredField "type", listField "properties" propertyForm, requiredField "source",
    requiredField "target", defaultField "source_name" .null]

/-- The fields of a model. -/
def modelForm : List FieldForm :=
  [listField "nodes" nodeForm, listField "relationships" relationshipForm]

/-- A reading that gives a result wherever another one does, and the same. -/
def Follows {β : Type} (first second : Option β) : Prop :=
  ∀ x, first = some x → second = some x

namespace Follows

variable {β γ : Type}

theorem refl (x : Option β) : Follows x x :=
  fun _ done => done

/-- Readings follow each other step by step. -/
theorem bind {first second : Option β} {next other : β → Option γ} (start : Follows first second)
    (rest : ∀ x, Follows (next x) (other x)) : Follows (first.bind next) (second.bind other) := by
  intro y done
  obtain ⟨x, read, left⟩ := Option.bind_eq_some_iff.mp done
  rw [start x read, Option.bind_some]
  exact rest x y left

/-- Lists are read alike if they differ in one item and its readings follow each other. -/
theorem listOf {read : Value → Option β} {step : Value → Value → Prop}
    (each : ∀ v w, step v w → Follows (read v) (read w)) {v w : Value}
    (change : ItemRespells step v w) :
    Follows (Format.listOf? read v) (Format.listOf? read w) := by
  obtain ⟨same⟩ := change
  rename_i front back v w
  change Follows ((front ++ v :: back).mapM read) ((front ++ w :: back).mapM read)
  -- The items in front and behind are read as before.
  rw [List.mapM_append, List.mapM_append, List.mapM_cons, List.mapM_cons]
  exact bind (refl _) fun _ => bind (bind (each v w same) fun _ => refl _) fun _ => refl _

/-- Documents are read alike behind any number of changes if they are behind each. -/
theorem run {read : Value → Option β} {step : Value → Value → Prop}
    (each : ∀ v w, step v w → Follows (read v) (read w)) {v w : Value}
    (changes : Relation.ReflTransGen step v w) : Follows (read v) (read w) := by
  -- A change at the end follows what the changes in front have kept.
  induction changes with
  | refl => exact refl _
  | tail _ change ih => exact fun x done => each _ _ change x (ih x done)

end Follows

/-- What a change leaves of a field: the same, its value said in another way, or nothing in place of
a default. -/
inductive FieldForm.Keeps (field : FieldForm) : Option Value → Option Value → Prop where
  | same (value : Option Value) : Keeps field value value
  | respelt {v w : Value} (same : field.respells v w) : Keeps field (some v) (some w)
  | dropped {v : Value} (default : field.isDefault v) : Keeps field (some v) none

namespace FieldForm

variable {β : Type} {read : Value → Option β} {field : FieldForm} {value other : Option Value}

/-- A required field is read alike behind a change. -/
theorem Keeps.required (kept : field.Keeps value other) (needed : ∀ v, ¬field.isDefault v)
    (each : ∀ v w, field.respells v w → Follows (read v) (read w)) :
    Follows (Format.required read value) (Format.required read other) := by
  cases kept with
  | same => exact .refl _
  | respelt same => exact each _ _ same
  | dropped default => exact absurd default (needed _)

/-- A field with a default is read alike behind a change, if defaults are read as the default. -/
theorem Keeps.optional (kept : field.Keeps value other) {default : β}
    (read_default : ∀ v, field.isDefault v → read v = some default)
    (each : ∀ v w, field.respells v w → Follows (read v) (read w)) :
    Follows (Format.optional read default value) (Format.optional read default other) := by
  -- A field is dropped only with its default, which is what is read of a field that is not there.
  cases kept with
  | same => exact .refl _
  | respelt same => exact each _ _ same
  | dropped left =>
    intro x done
    exact (read_default _ left).symm.trans done

end FieldForm

/-- What a change leaves of all fields of a record. -/
inductive KeepsAll : List FieldForm → List (Option Value) → List (Option Value) → Prop where
  | nil : KeepsAll [] [] []
  | cons {field : FieldForm} {form : List FieldForm} {value other : Option Value}
      {values others : List (Option Value)} (first : field.Keeps value other)
      (rest : KeepsAll form values others) :
      KeepsAll (field :: form) (value :: values) (other :: others)

namespace KeepsAll

variable {form after : List FieldForm} {values others more less : List (Option Value)}

/-- Fields that are not touched are kept. -/
theorem refl (sizes : form.length = values.length) : KeepsAll form values values := by
  -- Fields and values run out together.
  induction form generalizing values with
  | nil =>
    obtain rfl := List.length_eq_zero_iff.mp sizes.symm
    exact .nil
  | cons field form ih =>
    obtain ⟨value, values, rfl⟩ := List.exists_cons_of_length_eq_add_one sizes.symm
    exact .cons (.same value) (ih (Nat.succ.inj sizes))

/-- What is kept of some fields and of those behind them is kept of all. -/
theorem append (first : KeepsAll form values others) (rest : KeepsAll after more less) :
    KeepsAll (form ++ after) (values ++ more) (others ++ less) := by
  induction first with
  | nil => exact rest
  | cons head _ ih => exact .cons head ih

/-- A change to one field leaves those in front and those behind. -/
theorem one {before : List FieldForm} {field : FieldForm} {front : List (Option Value)}
    {value other : Option Value} (place : front.length = before.length)
    (sizes : after.length = more.length) (kept : field.Keeps value other) :
    KeepsAll (before ++ field :: after) (front ++ value :: more) (front ++ other :: more) :=
  (refl place.symm).append (.cons kept (refl sizes))

end KeepsAll

section Entries

variable {front back new entries others : List (String × Value)} {names : List String}
  {name : String} {v : Value}

/-- The entries that have one of the names of a field. -/
def entriesOf (names : List String) (entries : List (String × Value)) : List (String × Value) :=
  entries.filter fun entry => names.contains entry.1

/-- The entries of a field among those in front and those behind. -/
theorem entriesOf_append :
    entriesOf names (front ++ back) = entriesOf names front ++ entriesOf names back :=
  List.filter_append front back

/-- An entry of a field counts for it. -/
theorem entriesOf_cons (known : name ∈ names) :
    entriesOf names ((name, v) :: back) = (name, v) :: entriesOf names back :=
  List.filter_cons_of_pos (List.contains_iff_mem.mpr known)

/-- A field is left out if no entry has one of its names. -/
theorem field?_eq_none_iff : field? entries names = some none ↔ entriesOf names entries = [] := by
  unfold field? entriesOf
  generalize entries.filter _ = own
  match own with
  | [] | [(_, _)] | _ :: _ :: _ => simp

/-- A field has a value if exactly one entry has one of its names. -/
theorem field?_eq_some_iff :
    field? entries names = some (some v) ↔ ∃ name, entriesOf names entries = [(name, v)] := by
  unfold field? entriesOf
  generalize entries.filter _ = own
  match own with
  | [] | [(_, _)] | _ :: _ :: _ => simp

/-- An entry of another name does not count for a field. -/
theorem field?_other (other : name ∉ names) :
    field? (front ++ (name, v) :: back) names = field? (front ++ back) names := by
  simp [field?, other]

/-- The one entry of a name of a field gives its value, and without it the field is left out. -/
theorem field?_known (known : name ∈ names) {value : Option Value}
    (found : field? (front ++ (name, v) :: back) names = some value) :
    value = some v ∧ field? (front ++ back) names = some none := by
  cases value with
  | none =>
    -- The entry itself is one of the field.
    rw [field?_eq_none_iff, entriesOf_append, entriesOf_cons known] at found
    exact absurd found (List.append_ne_nil_of_right_ne_nil _ (List.cons_ne_nil _ _))
  | some given =>
    obtain ⟨other, alone⟩ := field?_eq_some_iff.mp found
    -- It is the only one, so that there is none in front of it and none behind.
    rw [entriesOf_append, entriesOf_cons known, List.append_eq_singleton_iff] at alone
    obtain ⟨before, rest⟩ | ⟨_, rest⟩ := alone
    · obtain ⟨same, behind⟩ := List.cons.inj rest
      refine ⟨congrArg some (Prod.mk.inj same).2.symm, ?_⟩
      rw [field?_eq_none_iff, entriesOf_append, before, behind, List.append_nil]
    · exact absurd rest (List.cons_ne_nil _ _)

/-- A field that is left out is given by an entry under any of its names. -/
theorem field?_given (known : name ∈ names)
    (missing : field? (front ++ back) names = some none) (v : Value) :
    field? (front ++ (name, v) :: back) names = some (some v) := by
  rw [field?_eq_none_iff, entriesOf_append, List.append_eq_nil_iff] at missing
  refine field?_eq_some_iff.mpr ⟨name, ?_⟩
  rw [entriesOf_append, entriesOf_cons known, missing.1, missing.2, List.nil_append]

/-- The order of entries does not matter to a field. -/
theorem field?_perm (same : entries.Perm others) {value : Option Value}
    (found : field? entries names = some value) : field? others names = some value := by
  -- The entries of a field are reordered among themselves, and one alone stays where it is.
  have kept : (entriesOf names entries).Perm (entriesOf names others) := same.filter _
  cases value with
  | none =>
    rw [field?_eq_none_iff] at found ⊢
    exact List.nil_perm.mp (found ▸ kept)
  | some given =>
    rw [field?_eq_some_iff] at found ⊢
    obtain ⟨name, alone⟩ := found
    exact ⟨name, List.perm_singleton.mp (alone ▸ kept).symm⟩

end Entries

/-- The fields of a record have no name in common. -/
def Distinct (form : List FieldForm) : Prop :=
  (form.flatMap FieldForm.spellings).Nodup

instance (form : List FieldForm) : Decidable (Distinct form) :=
  inferInstanceAs (Decidable (form.flatMap FieldForm.spellings).Nodup)

section Records

variable {form : List FieldForm} {entries others : List (String × Value)}
  {values : List (Option Value)}

/-- Each name belongs to one field. -/
theorem Distinct.eq_of_mem (distinct : Distinct form) {first second : FieldForm} {name : String}
    (known : first ∈ form) (also : second ∈ form) (named : name ∈ first.spellings)
    (shared : name ∈ second.spellings) : first = second := by
  have apart := (List.nodup_flatMap.mp distinct).2
  have symmetric : Std.Symm (Function.onFun List.Disjoint FieldForm.spellings) :=
    ⟨fun _ _ => List.disjoint_symm⟩
  -- Different fields have no spelling in common.
  by_contra different
  exact apart.forall known also different named shared

/-- A record keeps its fields if it keeps each of them. -/
theorem fieldValues?_record
    (each : ∀ field ∈ form, ∀ value, field? entries field.spellings = some value →
      ∃ other, field? others field.spellings = some other ∧ field.Keeps value other)
    (found : Value.fieldValues? (form.map FieldForm.spellings) (.record entries) = some values) :
    ∃ rest, Value.fieldValues? (form.map FieldForm.spellings) (.record others) = some rest ∧
      KeepsAll form values rest := by
  simp only [Value.fieldValues?] at found ⊢
  -- The fields are looked up one after the other, in the whole record each time.
  induction form generalizing values with
  | nil =>
    obtain rfl := Option.some.inj found
    exact ⟨[], rfl, .nil⟩
  | cons field form ih =>
    rw [List.map_cons, List.mapM_cons] at found
    obtain ⟨value, first, found⟩ := Option.bind_eq_some_iff.mp found
    obtain ⟨after, later, whole⟩ := Option.bind_eq_some_iff.mp found
    obtain rfl := Option.some.inj whole
    -- Each field is found in the changed record as well, and kept.
    obtain ⟨other, again, kept⟩ := each field List.mem_cons_self value first
    obtain ⟨rest, all, keeps⟩ := ih (fun f known => each f (List.mem_cons_of_mem _ known)) later
    refine ⟨other :: rest, ?_, .cons kept keeps⟩
    rw [List.map_cons, List.mapM_cons, again, all]
    rfl

section Replaces

variable {field other : FieldForm} {front back new : List (String × Value)} {old : String × Value}
  {value : Option Value}

/-- Replacing an entry of a field keeps the field. -/
theorem FieldForm.Replaces.keeps_own (change : field.Replaces old new)
    (found : field? (front ++ old :: back) field.spellings = some value) :
    ∃ rest, field? (front ++ (new ++ back)) field.spellings = some rest ∧
      field.Keeps value rest := by
  -- The entry is the one that gives the field its value, so that its replacement is the only one.
  cases change with
  | renamed before after =>
    obtain ⟨rfl, missing⟩ := field?_known before found
    exact ⟨_, field?_given after missing _, .same _⟩
  | respelt named same =>
    obtain ⟨rfl, missing⟩ := field?_known named found
    exact ⟨_, field?_given named missing _, .respelt same⟩
  | dropped named default =>
    obtain ⟨rfl, missing⟩ := field?_known named found
    exact ⟨_, missing, .dropped default⟩

/-- Replacing an entry of a field is not seen by fields of other names. -/
theorem FieldForm.Replaces.field?_eq (change : field.Replaces old new) {names : List String}
    (apart : ∀ name ∈ field.spellings, name ∉ names) :
    field? (front ++ (new ++ back)) names = field? (front ++ old :: back) names := by
  -- Whatever is taken out or put in stands under a name of the field that changes.
  cases change with
  | renamed before after =>
    exact (field?_other (apart _ after)).trans (field?_other (apart _ before)).symm
  | respelt named same =>
    exact (field?_other (apart _ named)).trans (field?_other (apart _ named)).symm
  | dropped named default => exact (field?_other (apart _ named)).symm

/-- Replacing an entry of one field keeps every field. -/
theorem FieldForm.Replaces.keeps (change : field.Replaces old new) (distinct : Distinct form)
    (known : field ∈ form) (also : other ∈ form)
    (found : field? (front ++ old :: back) other.spellings = some value) :
    ∃ rest, field? (front ++ (new ++ back)) other.spellings = some rest ∧
      other.Keeps value rest := by
  by_cases same : other = field
  · subst same
    exact change.keeps_own found
  · -- No name of the field belongs to the other one as well.
    have apart : ∀ name ∈ field.spellings, name ∉ other.spellings := fun name named shared =>
      same (distinct.eq_of_mem also known shared named)
    exact ⟨value, (change.field?_eq apart).trans found, .same _⟩

end Replaces

/-- The fields of a record without names are its items, with gaps behind them. -/
theorem fieldValues?_list {items : List Value} :
    Value.fieldValues? (form.map FieldForm.spellings) (.list items) = some values ↔
      ∃ gaps, items.length + gaps = form.length ∧
        values = items.map some ++ List.replicate gaps none := by
  simp only [Value.fieldValues?, List.length_map]
  -- A list of more items than fields has none, and gaps fill up a shorter one.
  constructor
  · intro found
    obtain ⟨fits, all⟩ := Option.ite_none_right_eq_some.mp found
    exact ⟨_, Nat.add_sub_of_le fits, (Option.some.inj all).symm⟩
  · rintro ⟨gaps, sizes, rfl⟩
    rw [if_pos (by omega), ← sizes, Nat.add_sub_cancel_left]

/-- A change that leaves what a record says keeps its fields. -/
theorem Respells.keeps {v w : Value} (change : Respells form v w) (distinct : Distinct form)
    (found : Value.fieldValues? (form.map FieldForm.spellings) v = some values) :
    ∃ others, Value.fieldValues? (form.map FieldForm.spellings) w = some others ∧
      KeepsAll form values others := by
  cases change with
  | entry front back known change =>
    exact fieldValues?_record (fun _ also _ => change.keeps distinct known also) found
  | ignored unknown =>
    refine fieldValues?_record (fun other also value found => ?_) found
    rw [field?_other (unknown other also)] at found
    exact ⟨value, (field?_other (unknown other also)).trans found, .same _⟩
  | permuted same =>
    refine fieldValues?_record (fun _ _ value known => ?_) found
    exact ⟨value, field?_perm same known, .same _⟩
  | @placed before after field front back v w fields place same =>
    subst fields
    obtain ⟨gaps, sizes, rfl⟩ := fieldValues?_list.mp found
    simp only [List.length_append, List.length_cons] at sizes
    -- The items in front and behind stay, and so do the gaps.
    refine ⟨_, fieldValues?_list.mpr ⟨gaps, by simpa using sizes, rfl⟩, ?_⟩
    simp only [List.map_append, List.map_cons, List.append_assoc, List.cons_append]
    refine .one ?_ ?_ (.respelt same)
    · rw [List.length_map, place]
    · simp only [List.length_append, List.length_map, List.length_replicate]
      omega
  | @shortened before after field front v fields place default =>
    subst fields
    obtain ⟨gaps, sizes, rfl⟩ := fieldValues?_list.mp found
    simp only [List.length_append, List.length_cons, List.length_nil] at sizes
    -- One more gap takes the place of the last item.
    refine ⟨_, fieldValues?_list.mpr ⟨gaps + 1, by simp; omega, rfl⟩, ?_⟩
    simp only [List.map_append, List.map_cons, List.map_nil, List.append_assoc, List.cons_append,
      List.nil_append, List.replicate_succ]
    refine .one ?_ ?_ (.dropped default)
    · rw [List.length_map, place]
    · rw [List.length_replicate]
      omega

/-- Readings of records follow each other if what is built from kept fields does. -/
theorem Respells.follows {β : Type} {build : List (Option Value) → Option β} {v w : Value}
    (change : Respells form v w) (distinct : Distinct form)
    (each : ∀ values others, KeepsAll form values others →
      Follows (build values) (build others)) :
    Follows ((Value.fieldValues? (form.map FieldForm.spellings) v).bind build)
      ((Value.fieldValues? (form.map FieldForm.spellings) w).bind build) := by
  intro x done
  obtain ⟨values, found, built⟩ := Option.bind_eq_some_iff.mp done
  -- The fields found before the change are kept by it.
  obtain ⟨others, again, kept⟩ := change.keeps distinct found
  rw [again, Option.bind_some]
  exact each values others kept x built

end Records

/-- A field that can be said in one way is read alike behind a change. -/
theorem follows_requiredField {β : Type} {read : Value → Option β} {name : String}
    {value other : Option Value} (kept : (requiredField name).Keeps value other) :
    Follows (required read value) (required read other) :=
  kept.required (fun _ => id) (fun _ _ => False.elim)

/-- A field with a default that can be said in one way is read alike behind a change. -/
theorem follows_defaultField {β : Type} {read : Value → Option β} {name : String} {written : Value}
    {default : β} {value other : Option Value}
    (kept : (defaultField name written).Keeps value other)
    (read_default : read written = some default) :
    Follows (Format.optional read default value) (Format.optional read default other) :=
  kept.optional (fun _ left => left ▸ read_default) (fun _ _ => False.elim)

/-- A list of records is read alike behind a change if its records are. -/
theorem follows_listField {β : Type} {read : Value → Option β} {name : String}
    {form : List FieldForm} {value other : Option Value}
    (kept : (listField name form).Keeps value other)
    (each : ∀ v w, Respells form v w → Follows (read v) (read w)) :
    Follows (Format.optional (listOf? read) [] value) (Format.optional (listOf? read) [] other) :=
  kept.optional (fun _ left => left ▸ rfl) (fun _ _ => Follows.listOf each)

/-- A value type is read alike behind a change. -/
theorem follows_typeField {value other : Option Value} (kept : typeField.Keeps value other) :
    Follows (Format.optional (ValueType.read? : Value → Option ValueType) .text value)
      (Format.optional ValueType.read? .text other) := by
  -- A spelling that is dropped is one of the default type, and others give way to the same type.
  refine kept.optional ?_ ?_
  · rintro _ ⟨spelling, rfl, default⟩
    exact congrArg some default
  · rintro _ _ ⟨spelling, other, rfl, rfl, same⟩ type read
    exact (congrArg some same.symm).trans read

/-- A property says the same behind a change. -/
theorem Property.follows_read? {v w : Value} (change : Respells propertyForm v w) :
    Follows (Property.read? v : Option Property) (Property.read? w) := by
  refine change.follows (by decide) fun values others kept => ?_
  obtain _ | ⟨name, _ | ⟨column, _ | ⟨type, _ | ⟨aliasColumn, _ | ⟨isUnique, _ |
    ⟨partOfKey, ⟨⟩⟩⟩⟩⟩⟩⟩ := kept
  -- The fields are read one after the other. The column is required, and has a second name.
  refine .bind (follows_requiredField name) fun _ => ?_
  refine .bind (column.required (fun _ => id) fun _ _ => False.elim) fun _ => ?_
  refine .bind (follows_typeField type) fun _ => ?_
  refine .bind (follows_defaultField aliasColumn rfl) fun _ => ?_
  refine .bind (follows_defaultField isUnique rfl) fun _ => ?_
  exact .bind (follows_defaultField partOfKey rfl) fun _ => .refl _

/-- A node says the same behind a change. -/
theorem Node.follows_read? {v w : Value} (change : Respells nodeForm v w) :
    Follows (Node.read? v : Option Node) (Node.read? w) := by
  refine change.follows (by decide) fun values others kept => ?_
  obtain _ | ⟨label, _ | ⟨properties, _ | ⟨sourceName, ⟨⟩⟩⟩⟩ := kept
  -- Changes within a property are followed by the reading of properties.
  refine .bind (follows_requiredField label) fun _ => ?_
  refine .bind (follows_listField properties fun _ _ => Property.follows_read?) fun _ => ?_
  exact .bind (follows_defaultField sourceName rfl) fun _ => .refl _

/-- A relationship says the same behind a change. -/
theorem Relationship.follows_read? {v w : Value} (change : Respells relationshipForm v w) :
    Follows (Relationship.read? v : Option Relationship) (Relationship.read? w) := by
  refine change.follows (by decide) fun values others kept => ?_
  obtain _ | ⟨type, _ | ⟨properties, _ | ⟨source, _ | ⟨target, _ | ⟨sourceName, ⟨⟩⟩⟩⟩⟩⟩ := kept
  -- As for a node, with the labels of both ends besides.
  refine .bind (follows_requiredField type) fun _ => ?_
  refine .bind (follows_listField properties fun _ _ => Property.follows_read?) fun _ => ?_
  refine .bind (follows_requiredField source) fun _ => ?_
  refine .bind (follows_requiredField target) fun _ => ?_
  exact .bind (follows_defaultField sourceName rfl) fun _ => .refl _

/-- A model says the same behind a change. -/
theorem Model.follows_read? {v w : Value} (change : Respells modelForm v w) :
    Follows (Model.read? v : Option Model) (Model.read? w) := by
  refine change.follows (by decide) fun values others kept => ?_
  obtain _ | ⟨nodes, _ | ⟨relationships, ⟨⟩⟩⟩ := kept
  -- A change lies within one node or one relationship.
  refine .bind (follows_listField nodes fun _ _ => Node.follows_read?) fun _ => ?_
  exact .bind (follows_listField relationships fun _ _ => Relationship.follows_read?) fun _ =>
    .refl _

/-- A change inside a list of records is one to the record that holds the list. -/
theorem Respells.inside {form inner : List FieldForm} {name : String} {v w : Value}
    (known : listField name inner ∈ form) (change : Respells inner v w)
    (front back : List (String × Value)) (before after : List Value) :
    Respells form (.record (front ++ (name, .list (before ++ v :: after)) :: back))
      (.record (front ++ (name, .list (before ++ w :: after)) :: back)) :=
  have items : (listField name inner).respells (.list (before ++ v :: after))
      (.list (before ++ w :: after)) := .item change
  .entry front back known (.respelt List.mem_cons_self items)

/-- The document of a model with one node that has one property. -/
def aroundProperty (property : Value) : Value :=
  .record [("nodes", .list [.record [("label", .text "Person"), ("properties", .list [property])]])]

/-- A change to the one property is a change to the model. -/
theorem Respells.ofProperty {p q : Value} (change : Respells propertyForm p q) :
    Respells modelForm (aroundProperty p) (aroundProperty q) :=
  have properties : listField "properties" propertyForm ∈ nodeForm :=
    List.mem_cons_of_mem _ List.mem_cons_self
  have nodes : listField "nodes" nodeForm ∈ modelForm := List.mem_cons_self
  inside nodes (inside properties change [("label", .text "Person")] [] [] []) [] [] [] []

/-- A property as older documents give it: the older name of its column and a default spelt out. -/
def olderProperty : Value :=
  .record [("name", .text "id"), ("csv_mapping", .text "person_id"), ("type", .text "int"),
    ("is_unique", .flag false)]

/-- The same property in another order, without its default. -/
def newerProperty : Value :=
  .record [("type", .text "integer"), ("name", .text "id"), ("column_mapping", .text "person_id")]

/-- Four changes lead from one document of the property to the other. -/
theorem newerProperty_of_olderProperty :
    Relation.ReflTransGen (Respells propertyForm) olderProperty newerProperty := by
  -- Three fields change in their places, and then the last one moves to the front.
  have renamed : columnField.Replaces ("csv_mapping", .text "person_id")
      [("column_mapping", .text "person_id")] := .renamed (by decide) (by decide)
  have respelt : typeField.Replaces ("type", .text "int") [("type", .text "integer")] :=
    .respelt (by decide) ⟨_, _, rfl, rfl, by decide⟩
  have dropped : (defaultField "is_unique" (.flag false)).Replaces ("is_unique", .flag false) [] :=
    .dropped (by decide) rfl
  refine .head (.entry [("name", .text "id")] _ (by simp [propertyForm]) renamed) ?_
  refine .head (.entry [_, _] _ (by simp [propertyForm]) respelt) ?_
  refine .head (.entry [_, _, _] [] (by simp [propertyForm]) dropped) ?_
  exact .single (.permuted (List.perm_append_singleton _ [_, _]))

/-- What is written as a document is read back, and a document that is read as a model is read as
the same one behind any changes that leave what it says. -/
theorem documents_read_back :
    (∀ p : Property, Property.read? p.document = some p) ∧
    (∀ n : Node, Node.read? n.document = some n) ∧
    (∀ r : Relationship, Relationship.read? r.document = some r) ∧
    (∀ m : Model, Model.read? m.document = some m) ∧
    (∀ files : SourceFiles, SourceFiles.read? files.document = some files) ∧
    (∀ o : LoadOptions, LoadOptions.read? o.document = some o) ∧
    (∀ s : ManifestSettings, ManifestSettings.read? s.document = some s) ∧
    (∀ m : Manifest, Manifest.read? m.document = some m) ∧
    (∀ f : Fault, Fault.read? f.document = some f) ∧
    ∀ (v w : Value) (m : Model), Relation.ReflTransGen (Respells modelForm) v w →
      Model.read? v = some m → Model.read? w = some m :=
  ⟨Property.read?_document, Node.read?_document, Relationship.read?_document, Model.read?_document,
    SourceFiles.read?_document, LoadOptions.read?_document, ManifestSettings.read?_document,
    Manifest.read?_document, Fault.read?_document, fun _ _ m changes =>
      -- One change is followed by the reading, and so is a run of them.
      have each : ∀ v w : Value, Respells modelForm v w →
        Follows (Model.read? v) (Model.read? w) := fun _ _ => Model.follows_read?
      Follows.run each changes m⟩

/-- An older document of a model is read as the newer one is. -/
theorem documents_read_back_older :
    Model.read? (aroundProperty newerProperty) =
      some { nodes := [{ label := "Person", properties := [{
        name := "id", column := "person_id", valueType := .integer }] }] } := by
  have changes := newerProperty_of_olderProperty.lift aroundProperty fun _ _ =>
    Respells.ofProperty
  exact documents_read_back.2.2.2.2.2.2.2.2.2 _ _ _ changes rfl

end GraphLoad
