import Mathlib.Data.List.Basic
import Mathlib.Tactic.SplitIfs

/-! Texts in the order of their code points are in the order of their bytes in UTF-8. -/

namespace GraphLoad

/-- The bytes of a text in UTF-8. -/
def utf8Bytes (text : String) : List UInt8 :=
  text.toUTF8.data.toList

/-- Texts in the order of their bytes: the first byte that differs decides, and a text stands in
front of those that go on where it ends. -/
def PrecedesInUtf8 (first second : String) : Prop :=
  List.Lex (· < ·) (utf8Bytes first) (utf8Bytes second)

/-- The bytes of a text are those of its characters, one after the other. -/
theorem utf8Bytes_eq (text : String) :
    utf8Bytes text = text.toList.flatMap String.utf8EncodeChar := by
  unfold utf8Bytes
  rw [String.toUTF8_eq_toByteArray, ← String.ofList_toList (s := text), String.toList_ofList]
  exact List.toList_data_toByteArray

/-- The bytes of a smaller character come first, whatever stands behind the two characters. -/
theorem utf8EncodeChar_lt {c d : Char} (less : c < d) (rest other : List UInt8) :
    List.Lex (· < ·) (String.utf8EncodeChar c ++ rest) (String.utf8EncodeChar d ++ other) := by
  have values : c.val.toNat < d.val.toNat := less
  have bound : d.val.toNat < 0x110000 := by
    rcases d.valid with below | ⟨_, within⟩
    · exact Nat.lt_trans below (by decide)
    · exact within
  -- A code point is written in digits to the base 64, and what is left of it goes into the first
  -- byte.
  have digits (v : Nat) : v / 4096 = v / 64 / 64 ∧ v / 262144 = v / 64 / 64 / 64 :=
    ⟨(Nat.div_div_eq_div_mul v 64 64).symm, by rw [Nat.div_div_eq_div_mul, Nat.div_div_eq_div_mul]⟩
  show String.utf8EncodeChar c ++ rest < String.utf8EncodeChar d ++ other
  unfold String.utf8EncodeChar
  simp only [digits]
  -- Between encodings of different lengths the first byte decides, and of one length the digits.
  split_ifs <;>
    simp only [List.cons_append, List.nil_append, List.cons_lt_cons_iff, UInt8.lt_iff_toNat_lt,
      ← UInt8.toNat_inj, UInt8.toNat_ofNat'] <;>
    omega

/-- A text that is smaller by its code points is so by its bytes. -/
theorem precedesInUtf8_of_lt {first second : String} (less : first < second) :
    PrecedesInUtf8 first second := by
  unfold PrecedesInUtf8
  rw [utf8Bytes_eq, utf8Bytes_eq]
  have points : List.Lex (· < ·) first.toList second.toList := less
  generalize first.toList = front, second.toList = back at points
  -- The first character that differs decides, behind bytes that both texts share.
  induction points with
  | nil =>
    rename_i c rest
    -- The text that ends first comes first, as a character has one byte at least.
    obtain ⟨byte, more, encoded⟩ :=
      List.exists_cons_of_ne_nil (String.utf8EncodeChar_ne_nil (c := c))
    simp [encoded]
  | cons _ ih =>
    rw [List.flatMap_cons, List.flatMap_cons]
    exact List.append_left_lt ih
  | rel smaller =>
    rw [List.flatMap_cons, List.flatMap_cons]
    exact utf8EncodeChar_lt smaller _ _

end GraphLoad
