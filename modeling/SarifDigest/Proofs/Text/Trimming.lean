import SarifDigest.Proofs.Projection.WellFormed
import SarifDigest.Settings.Words

/-!
# What trimming leaves

A text is the part of it that trimming leaves, between white space; no other part stands between
white space and has none at its own ends. A word is spelled by a text that is the word in letters
of either case between white space, so the plain word of a text is the one that it spells.
-/
namespace SarifDigest.Text

/-- The characters that trimming leaves. -/
theorem toList_trim (text : String) :
    (trim text).toList = (text.toList.dropWhile isBlank).rdropWhile isBlank :=
  String.toList_ofList

/-- Characters that are all white space. -/
def Blank (characters : List Char) : Prop :=
  ∀ c ∈ characters, isBlank c = true

/-- A text is blank when all of its characters are white space. -/
theorem isBlankText_iff {text : String} : isBlankText text = true ↔ Blank text.toList := by
  simp [isBlankText, Blank]

/-- White space behind characters is dropped from their end. -/
theorem rdropWhile_append_blank {characters back : List Char} (blank : Blank back) :
    (characters ++ back).rdropWhile isBlank = characters.rdropWhile isBlank := by
  have reversed : ∀ c ∈ back.reverse, isBlank c = true :=
    fun c inside => blank c (List.mem_reverse.1 inside)
  rw [List.rdropWhile, List.reverse_append, List.dropWhile_append_of_pos reversed, List.rdropWhile]

/-- Trimming a text leaves the part of it that has no white space at its ends and stands between
white space. -/
theorem trim_eq_iff {text core : String} :
    trim text = core ↔ Trimmed core ∧ ∃ front back, Blank front ∧ Blank back ∧
      text.toList = front ++ core.toList ++ back := by
  constructor
  · rintro rfl
    refine ⟨trimmed_trim text, text.toList.takeWhile isBlank,
      (text.toList.dropWhile isBlank).rtakeWhile isBlank, ?_, ?_, ?_⟩
    · intro c inside
      exact List.mem_takeWhile_imp inside
    · intro c inside
      exact List.mem_rtakeWhile_imp inside
    · rw [toList_trim, List.append_assoc, List.rdropWhile_append_rtakeWhile,
        List.takeWhile_append_dropWhile]
  · rintro ⟨trimmed, front, back, blankFront, blankBack, whole⟩
    apply String.toList_injective
    rw [toList_trim, whole, List.append_assoc, List.dropWhile_append_of_pos blankFront]
    cases start : core.toList with
    | nil =>
      have none : back.dropWhile isBlank = [] := List.dropWhile_eq_nil_iff.2 blankBack
      rw [List.nil_append, none, List.rdropWhile_nil]
    | cons first others =>
      have visible : ¬ isBlank first = true := by simp [trimmed.front first (by rw [start]; rfl)]
      rw [List.cons_append, List.dropWhile_cons_of_neg visible, ← List.cons_append,
        rdropWhile_append_blank blankBack, List.rdropWhile_eq_self_iff]
      intro some
      have last := trimmed.back _ (by rw [start, List.getLast?_eq_some_getLast some])
      simp [last]

/-- A text spells a word when it is the word between white space, with ASCII letters of either
case. -/
def Spells (text word : String) : Prop :=
  ∃ front middle back, Blank front ∧ Blank back ∧ text.toList = front ++ middle ++ back ∧
    middle.map Char.toLower = word.toList

/-- Letters are no white space, so their case makes no difference to it. -/
theorem isBlank_toLower (c : Char) : isBlank c.toLower = isBlank c := by
  have visible {d : Char} (low : 65 ≤ d.toNat) (high : d.toNat ≤ 122) : isBlank d = false := by
    simp only [isBlank, Bool.or_eq_false_iff, Bool.and_eq_false_iff, beq_eq_false_iff_ne,
      decide_eq_false_iff_not, ne_eq]
    omega
  unfold Char.toLower
  split
  · rename_i upper
    have low : 65 ≤ c.toNat := UInt32.le_iff_toNat_le.1 upper.1
    have high : c.toNat ≤ 90 := UInt32.le_iff_toNat_le.1 upper.2
    have code : (c.val + ('a'.val - 'A'.val)).toNat = c.toNat + 32 := by
      rw [UInt32.toNat_add]
      exact Nat.mod_eq_of_lt (by change c.toNat + 32 < 4294967296; omega)
    rw [visible low (by omega)]
    refine visible ?_ ?_
    · change 65 ≤ (c.val + ('a'.val - 'A'.val)).toNat
      omega
    · change (c.val + ('a'.val - 'A'.val)).toNat ≤ 122
      omega
  · rfl

/-- The plain word of a text is the one that it spells. -/
theorem plainWord_eq_iff {text word : String} (trimmed : Trimmed word) :
    plainWord text = word ↔ Spells text word := by
  have lower (core : String) :
      toAsciiLower core = word ↔ core.toList.map Char.toLower = word.toList := by
    rw [← String.toList_inj, toAsciiLower, String.toList_ofList]
  rw [plainWord, lower]
  constructor
  · intro same
    obtain ⟨_, front, back, blankFront, blankBack, whole⟩ := trim_eq_iff.1 (Eq.refl (trim text))
    exact ⟨front, _, back, blankFront, blankBack, whole, same⟩
  · rintro ⟨front, middle, back, blankFront, blankBack, whole, same⟩
    have ends : Trimmed (String.ofList middle) := by
      constructor <;> intro c first <;> rw [String.toList_ofList] at first <;>
        rw [← isBlank_toLower]
      · exact trimmed.front _ (by rw [← same, List.head?_map, first, Option.map_some])
      · exact trimmed.back _ (by rw [← same, List.getLast?_map, first, Option.map_some])
    have left : trim text = String.ofList middle :=
      trim_eq_iff.2 ⟨ends, front, back, blankFront, blankBack, by rwa [String.toList_ofList]⟩
    rw [left, String.toList_ofList]
    exact same

end SarifDigest.Text
