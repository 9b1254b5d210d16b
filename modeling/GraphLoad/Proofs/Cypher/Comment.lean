import GraphLoad.Loading.Compiler
import GraphLoad.Proofs.Cypher.Inert

/-! What is left of a text once its comments are dropped: inert texts stay, and a header goes if
none of its line breaks leads out of the comment. -/

namespace GraphLoad

open Cypher

namespace Cypher

/-- What dropping the comments leaves of a text that stands outside of quotes, whatever is behind
it. -/
def Leaves (text kept : String) : Prop :=
  ∀ rest, dropComments (some .plain) (text.toList ++ rest) =
    kept.toList ++ dropComments (some .plain) rest

/-- A text without signals outside of quotes is not touched, and the reader goes on behind it. -/
theorem dropComments_append {mode behind : ScanMode} {text : List Char}
    (passed : mode.after text = some behind) (rest : List Char) :
    dropComments (some mode) (text ++ rest) = text ++ dropComments (some behind) rest := by
  -- The reader takes up one character after the other and changes its mode on the way.
  induction text generalizing mode with
  | nil =>
    obtain rfl := Option.some.inj passed
    rfl
  | cons c text ih =>
    simp only [ScanMode.after] at passed
    split at passed
    · cases passed
    · rename_i goesOn
      -- A comment would start with a slash, which is a signal.
      have noComment : ¬ (mode = .plain ∧ ['/', '/'].isPrefixOf (c :: (text ++ rest))) := by
        rintro ⟨plain, slashes⟩
        obtain ⟨first, _⟩ := List.cons_prefix_cons.mp (List.isPrefixOf_iff_prefix.mp slashes)
        exact goesOn ⟨plain, by rw [← first]; rfl⟩
      rw [List.cons_append, dropComments, if_neg noComment, ih passed, List.cons_append]

/-- Inert texts are left as they are. -/
theorem Inert.leaves {text : String} (inert : Inert text) : Leaves text text :=
  dropComments_append inert

/-- Of two texts one behind the other is left what is left of each. -/
theorem Leaves.append {first second left right : String} (before : Leaves first left)
    (after : Leaves second right) : Leaves (first ++ second) (left ++ right) := by
  intro rest
  rw [String.toList_append, String.toList_append, List.append_assoc, List.append_assoc, before,
    after]

/-- Of texts joined by an inert one is left what is left of each, joined by it. -/
theorem Leaves.intercalate {α : Type} {separator : String} (between : Inert separator)
    {items : List α} {text kept : α → String}
    (each : ∀ item ∈ items, Leaves (text item) (kept item)) :
    Leaves (separator.intercalate (items.map text)) (separator.intercalate (items.map kept)) := by
  induction items with
  | nil => exact fun _ => rfl
  | cons item others ih =>
    obtain ⟨first, rest⟩ := List.forall_mem_cons.mp each
    -- Only behind an item that others follow is there a text between.
    by_cases alone : others = []
    · simpa [alone] using first
    · have many : ∀ f : α → String, others.map f ≠ [] := fun f => by simpa using alone
      rw [List.map_cons, List.map_cons, String.intercalate_cons_of_ne_nil (many text),
        String.intercalate_cons_of_ne_nil (many kept)]
      exact (first.append between.leaves).append (ih rest)

/-- The text without its comments is what is left of it. -/
theorem Leaves.withoutComments_eq {text kept : String} (leaves : Leaves text kept) :
    withoutComments text = kept := by
  have all := leaves []
  rw [List.append_nil, dropComments, List.append_nil] at all
  rw [withoutComments, all, String.ofList_toList]

/-- A text that does not lead out of a comment: each of its line breaks is followed by two slashes.
-/
def StaysComment (text : List Char) : Prop :=
  ∀ rest, '\n' :: rest <:+ text → ['/', '/'] <+: rest

theorem staysComment_nil : StaysComment [] := by
  simp [StaysComment]

theorem staysComment_cons {c : Char} {text : List Char} :
    StaysComment (c :: text) ↔ (c = '\n' → ['/', '/'] <+: text) ∧ StaysComment text := by
  -- A line break is the first character, or stands in the rest.
  simp only [StaysComment, List.suffix_cons_iff, List.cons.injEq]
  constructor
  · intro stays
    exact ⟨fun break_ => stays text (.inl ⟨break_.symm, rfl⟩),
      fun rest within => stays rest (.inr within)⟩
  · rintro ⟨here, later⟩ rest (⟨rfl, rfl⟩ | within)
    · exact here rfl
    · exact later rest within

instance : DecidablePred StaysComment := fun text =>
  text.rec (.isTrue staysComment_nil) fun _ _ later =>
    have := later
    decidable_of_iff _ staysComment_cons.symm

/-- Slashes at the start of a text are found in front of anything but a slash. -/
theorem slashes_prefix_append {c : Char} (other : c ≠ '/') (text rest : List Char) :
    ['/', '/'] <+: text ++ c :: rest ↔ ['/', '/'] <+: text := by
  -- Two characters decide, and the one behind a shorter text is no slash.
  match text with
  | [] => simp [List.cons_prefix_cons, other.symm]
  | [_] => simp [List.cons_prefix_cons, other.symm]
  | _ :: _ :: _ => simp [List.cons_prefix_cons]

/-- A character that neither breaks a line nor is a slash parts a text in two that stay comment each
for itself. -/
theorem staysComment_append {c : Char} (noBreak : c ≠ '\n') (noSlash : c ≠ '/')
    (first second : List Char) :
    StaysComment (first ++ c :: second) ↔ StaysComment first ∧ StaysComment second := by
  -- The slashes behind a line break of the first text cannot reach past the character between.
  induction first with
  | nil => simp [staysComment_cons, staysComment_nil, noBreak]
  | cons other first ih =>
    rw [List.cons_append, staysComment_cons, staysComment_cons, slashes_prefix_append noSlash, ih,
      and_assoc]

/-- A text outside of quotes that does not start a comment is left with its first character. -/
theorem dropComments_ne_nil {c : Char} {text : List Char} (plain : ¬ ['/', '/'] <+: c :: text) :
    dropComments (some .plain) (c :: text) ≠ [] := by
  rw [dropComments, if_neg fun slashes => plain (List.isPrefixOf_iff_prefix.mp slashes.2)]
  exact List.cons_ne_nil _ _

/-- Behind two slashes the reader is in a comment, whether or not it was in one before. -/
theorem dropComments_slashes (rest : List Char) :
    dropComments (some .plain) (['/', '/'] ++ rest) = dropComments none (['/', '/'] ++ rest) := by
  simp [dropComments]

/-- A comment ends with the line that it starts on, and leaves nothing, exactly if no line break in
it leads out of it. -/
theorem dropComments_comment_iff {text : List Char} :
    (∀ rest, dropComments none (text ++ '\n' :: rest) = dropComments (some .plain) rest) ↔
      StaysComment text := by
  -- A line break in the text ends the comment, and only two slashes start one again.
  induction text with
  | nil => simp [staysComment_nil, dropComments]
  | cons c text ih =>
    rw [staysComment_cons, ← ih]
    by_cases break_ : c = '\n'
    · subst break_
      simp only [List.cons_append, dropComments, if_true, true_imp_iff]
      constructor
      · intro dropped
        -- What stands behind the line break would be left, if it did not start a comment.
        have slashes : ['/', '/'] <+: text := by
          by_contra plain
          rw [← slashes_prefix_append (by decide : '\n' ≠ '/') text []] at plain
          obtain ⟨first, others, parts⟩ := List.exists_cons_of_ne_nil
            (List.append_ne_nil_of_right_ne_nil text (List.cons_ne_nil '\n' []))
          have kept := dropped []
          rw [parts] at plain kept
          exact dropComments_ne_nil plain kept
        obtain ⟨others, rfl⟩ := slashes
        simp only [List.append_assoc, dropComments_slashes] at dropped ⊢
        exact ⟨List.prefix_append _ _, dropped⟩
      · rintro ⟨⟨others, rfl⟩, dropped⟩ rest
        rw [List.append_assoc, dropComments_slashes, ← List.append_assoc]
        exact dropped rest
    · simp [dropComments, break_]

/-- A text without backticks and single quotes. -/
def IsUnquoted (text : List Char) : Prop :=
  ∀ c ∈ text, c ≠ '\x60' ∧ c ≠ '\''

instance : DecidablePred IsUnquoted := fun text =>
  List.decidableBAll _ text

theorem isUnquoted_append {first second : List Char} :
    IsUnquoted (first ++ second) ↔ IsUnquoted first ∧ IsUnquoted second :=
  List.forall_mem_append

/-- A reader that is outside of quotes, or in a comment, is outside of both behind a line without
quotes. -/
theorem dropComments_line {mode : Option ScanMode} (outside : mode = none ∨ mode = some .plain)
    {text : List Char} (unquoted : IsUnquoted text) (rest : List Char) :
    dropComments mode (text ++ '\n' :: rest) =
      dropComments mode (text ++ ['\n']) ++ dropComments (some .plain) rest := by
  -- Without quotes, all that can change on the way is whether the reader is in a comment.
  induction text generalizing mode with
  | nil => rcases outside with rfl | rfl <;> simp [dropComments, ScanMode.next]
  | cons c text ih =>
    obtain ⟨first, others⟩ := List.forall_mem_cons.mp unquoted
    have step : ∀ {behind : Option ScanMode}, behind = none ∨ behind = some .plain →
        dropComments behind (text ++ '\n' :: rest) =
          dropComments behind (text ++ ['\n']) ++ dropComments (some .plain) rest :=
      fun behind => ih behind others
    rcases outside with rfl | rfl
    · simp only [List.cons_append, dropComments]
      exact step (by split <;> simp)
    · -- Whether a comment starts here does not depend on what is behind the line.
      have slashes : ∀ rest : List Char, ['/', '/'].isPrefixOf (c :: (text ++ '\n' :: rest)) =
          ['/', '/'].isPrefixOf (c :: text) := by
        intro rest
        have same := slashes_prefix_append (by decide : '\n' ≠ '/') (c :: text) rest
        rwa [List.cons_append, ← List.isPrefixOf_iff_prefix, ← List.isPrefixOf_iff_prefix,
          ← Bool.eq_iff_iff] at same
      have stays : ScanMode.plain.next c = .plain := by simp [ScanMode.next, first.1, first.2]
      simp only [List.cons_append, dropComments, slashes, true_and, stays]
      split
      · exact step (.inl rfl)
      · rw [step (.inr rfl), List.cons_append]

end Cypher

namespace Statement

/-- The element of a statement and the file of its rows, in words. -/
def title (s : Statement) : String :=
  s.element.text ++ " (" ++ s.sourceName ++ ")"

/-- The comment that names the element and the file of a statement. -/
def header (s : Statement) : String :=
  "// " ++ s.title ++ "\n"

/-- A statement is annotated by the header in front of it. -/
theorem annotated_eq (s : Statement) : s.annotated = s.header ++ s.cypher := by
  have ended : ")\n" = ")" ++ "\n" := rfl
  simp only [annotated, header, title, ended, String.append_assoc]

/-- Neither the name of the element nor that of the file leads out of a comment. -/
def HasPlainHeader (s : Statement) : Prop :=
  StaysComment s.element.name.toList ∧ StaysComment s.sourceName.toList

instance (s : Statement) : Decidable s.HasPlainHeader :=
  inferInstanceAs (Decidable (_ ∧ _))

/-- Of what stands in a header, only the two names can lead out of the comment. -/
theorem staysComment_title_iff (s : Statement) :
    StaysComment s.title.toList ↔ s.HasPlainHeader := by
  have kind : StaysComment s.element.kind.toList := by
    cases s.element with
    | node => show StaysComment "node".toList; decide
    | relationship => show StaysComment "relationship".toList; decide
  have parts : s.title.toList = s.element.kind.toList ++ ' ' :: (s.element.name.toList ++
      ' ' :: '(' :: (s.sourceName.toList ++ [')'])) := by
    simp [title, ElementRef.text]
  -- Blanks and parentheses part the words, and none of them breaks a line or is a slash.
  simp [parts, HasPlainHeader, staysComment_append, staysComment_cons, staysComment_nil, kind]

/-- The header is dropped as a whole, whatever is behind it, exactly if none of its names leads out
of a comment. -/
theorem leaves_header_iff (s : Statement) : Leaves s.header "" ↔ s.HasPlainHeader := by
  have parts : s.header.toList = ['/', '/'] ++ (' ' :: s.title.toList ++ ['\n']) := by
    simp [header]
  rw [← staysComment_title_iff, ← dropComments_comment_iff, Leaves, parts]
  simp [dropComments]

/-- A line break does no harm where the next line is a comment as well. -/
example : (Statement.mk (.node "Jam\n// cold") "jam.csv" "").HasPlainHeader ∧
    ¬ (Statement.mk (.node "Jam\ncold") "jam.csv" "").HasPlainHeader := by
  decide

/-- Neither the name of the element nor that of the file has backticks or single quotes in it. -/
def HasUnquotedNames (s : Statement) : Prop :=
  IsUnquoted s.element.name.toList ∧ IsUnquoted s.sourceName.toList

instance (s : Statement) : Decidable s.HasUnquotedNames :=
  inferInstanceAs (Decidable (_ ∧ _))

/-- A header without quotes leaves what stands in it outside of comments, whatever is behind it. -/
theorem HasUnquotedNames.leaves_header {s : Statement} (unquoted : s.HasUnquotedNames) :
    Leaves s.header (withoutComments s.header) := by
  have kind : IsUnquoted s.element.kind.toList := by
    cases s.element with
    | node => show IsUnquoted "node".toList; decide
    | relationship => show IsUnquoted "relationship".toList; decide
  have parts : ("// " ++ s.title).toList = "// ".toList ++ (s.element.kind.toList ++
      (" ".toList ++ (s.element.name.toList ++ (" (".toList ++ (s.sourceName.toList ++
        ")".toList))))) := by
    simp [title, ElementRef.text]
  -- Only the two names could bring in a quote.
  have line : IsUnquoted ("// " ++ s.title).toList := by
    simp only [parts, isUnquoted_append]
    exact ⟨by decide, kind, by decide, unquoted.1, by decide, unquoted.2, by decide⟩
  intro rest
  have read := dropComments_line (.inr rfl) line rest
  simpa [header, withoutComments] using read

end Statement

end GraphLoad
