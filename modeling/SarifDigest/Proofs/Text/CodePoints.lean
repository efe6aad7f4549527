import Mathlib.Data.String.Basic

/-!
# The order of texts

Texts are ordered by their code points, from first to last. The order of their bytes is the same:
the bytes of a smaller character differ from those of a greater one before either ends, and the
first that differs is smaller.
-/
namespace SarifDigest.Text

/-- One text is before another when it is a proper beginning of the other, or has the smaller
code point at the first difference. -/
def Before (left right : String) : Prop :=
  List.Lex (fun first second => first.toNat < second.toNat) left.toList right.toList

/-- The bytes of a text in UTF-8. -/
def bytes (text : String) : List UInt8 :=
  text.toUTF8.data.toList

/-- Texts compare as smaller when they are before in this order. -/
theorem compare_eq_lt_iff {left right : String} :
    compare left right = .lt ↔ Before left right := by
  have smaller : compare left right = .lt ↔ left < right := Std.LawfulLTCmp.eq_lt_iff_lt
  rw [smaller, String.lt_iff_toList_lt]
  exact List.lt_iff_lex_lt _ _

/-- No text is before the empty one. -/
theorem not_before_empty (text : String) : ¬ Before text "" := by
  intro smaller
  rw [Before, String.toList_empty] at smaller
  exact List.not_lex_nil smaller

/-- Two lists diverge when they differ before either ends; the first difference decides. -/
inductive Diverge {α : Type} (less : α → α → Prop) : List α → List α → Prop
  | here {first second : α} {left right : List α} (smaller : less first second) :
      Diverge less (first :: left) (second :: right)
  | later {first : α} {left right : List α} (onward : Diverge less left right) :
      Diverge less (first :: left) (first :: right)

/-- Lists that diverge stay in order whatever follows them. -/
theorem Diverge.append {α : Type} {less : α → α → Prop} {left right : List α}
    (diverge : Diverge less left right) (behind others : List α) :
    List.Lex less (left ++ behind) (right ++ others) := by
  induction diverge with
  | here smaller => exact .rel smaller
  | later _ ih => exact .cons ih

/-- Lists diverge at their first elements or, where these are the same, behind them. -/
theorem diverge_cons_iff {α : Type} {less : α → α → Prop} {first second : α}
    {left right : List α} :
    Diverge less (first :: left) (second :: right) ↔
      less first second ∨ first = second ∧ Diverge less left right := by
  constructor
  · intro diverge
    cases diverge with
    | here smaller => exact .inl smaller
    | later onward => exact .inr ⟨rfl, onward⟩
  · rintro (smaller | ⟨rfl, onward⟩)
    · exact .here smaller
    · exact .later onward

/-- Bytes that are given by numbers diverge as the numbers do. -/
theorem diverge_ofNat_iff {first second : Nat} {left right : List UInt8} (bound : first < 256)
    (bound' : second < 256) :
    Diverge (· < ·) (UInt8.ofNat first :: left) (UInt8.ofNat second :: right) ↔
      first < second ∨ first = second ∧ Diverge (· < ·) left right := by
  have value : (UInt8.ofNat first).toNat = first := UInt8.toNat_ofNat_of_lt' bound
  have value' : (UInt8.ofNat second).toNat = second := UInt8.toNat_ofNat_of_lt' bound'
  rw [diverge_cons_iff, UInt8.lt_iff_toNat_lt, ← UInt8.toNat_inj, value, value']

/-- The bytes of a smaller character diverge from those of a greater one. -/
theorem diverge_utf8EncodeChar {first second : Char} (smaller : first.toNat < second.toNat) :
    Diverge (· < ·) (String.utf8EncodeChar first) (String.utf8EncodeChar second) := by
  have bound : second.toNat < 0x110000 := by
    rcases second.valid with low | ⟨_, high⟩
    · exact low.trans (by decide)
    · exact high
  simp only [String.utf8EncodeChar, Char.toNat_val]
  generalize first.toNat = code at *
  generalize second.toNat = code' at *
  -- The bytes carry groups of six bits, and the first group that differs is smaller.
  have group (number unit : Nat) :
      number / unit % 64 = number / unit - 64 * (number / (unit * 64)) := by
    rw [← Nat.div_div_eq_div_mul, Nat.mod_def]
  have last (number : Nat) : number % 64 = number - 64 * (number / 64) := Nat.mod_def ..
  have top (number : Nat) (low : number < 0x110000) : number / 262144 % 8 = number / 262144 :=
    Nat.mod_eq_of_lt (by omega)
  have higher (unit : Nat) : code / unit < code' / unit ∨ code / unit = code' / unit :=
    (Nat.div_le_div_right smaller.le).lt_or_eq
  have highest := higher 262144
  have middle := higher 4096
  have lowest := higher 64
  split_ifs <;> simp (disch := omega) only [diverge_ofNat_iff, group, top, last] <;> omega

/-- The bytes of a text are those of its characters. -/
theorem bytes_eq (text : String) : bytes text = text.toList.flatMap String.utf8EncodeChar := by
  rw [bytes, String.toUTF8_eq_toByteArray, ← String.utf8Encode_toList, List.utf8Encode,
    List.data_toByteArray]

/-- A character has bytes. -/
theorem utf8EncodeChar_ne_nil (c : Char) : String.utf8EncodeChar c ≠ [] := by
  intro none
  have size := String.length_utf8EncodeChar c
  have positive := c.utf8Size_pos
  rw [none, List.length_nil] at size
  omega

/-- Text before another has smaller bytes. -/
theorem lex_bytes_of_before {left right : String} (before : Before left right) :
    List.Lex (· < ·) (bytes left) (bytes right) := by
  rw [bytes_eq, bytes_eq]
  rw [Before] at before
  generalize left.toList = characters at *
  generalize right.toList = others at *
  induction before with
  | @nil c others =>
    obtain ⟨byte, behind, start⟩ := List.exists_cons_of_ne_nil (utf8EncodeChar_ne_nil c)
    rw [List.flatMap_cons, start]
    exact .nil
  | rel smaller => exact (diverge_utf8EncodeChar smaller).append _ _
  | cons _ ih => exact List.Lex.append_left _ ih _

/-- Texts are in the order of their code points exactly when their bytes are in order. -/
theorem before_iff_bytes {left right : String} :
    Before left right ↔ List.Lex (· < ·) (bytes left) (bytes right) := by
  refine ⟨lex_bytes_of_before, fun smaller => ?_⟩
  cases order : compare left right with
  | lt => exact compare_eq_lt_iff.1 order
  | eq =>
    rw [Std.LawfulEqOrd.eq_of_compare order] at smaller
    exact absurd smaller (irrefl _)
  | gt =>
    have greater := lex_bytes_of_before (compare_eq_lt_iff.1 (Std.OrientedCmp.lt_of_gt order))
    exact absurd smaller (asymm greater)

end SarifDigest.Text
