import ErDiagram.Text.Blank
import ErDiagram.Text.Search
import Mathlib.Data.List.Forall2

/-!
The case of the letters A to Z. Two characters have one lower-case form exactly if they are the same, or
one is such a letter and the other its lower-case form; no other character has a case here.
-/

namespace ErDiagram

/-- A letter from A to Z and its lower-case form. -/
def IsCasePair (upper lower : Char) : Prop :=
  'A' ≤ upper ∧ upper ≤ 'Z' ∧ lower.toNat = upper.toNat + 32

/-- Two characters that differ at most in the case of a letter from A to Z. -/
def SameLetter (c d : Char) : Prop :=
  c = d ∨ IsCasePair c d ∨ IsCasePair d c

/-- The letters A to Z are the characters 65 to 90. -/
theorem isUpper_iff_toNat {c : Char} : 'A' ≤ c ∧ c ≤ 'Z' ↔ 65 ≤ c.toNat ∧ c.toNat ≤ 90 :=
  Iff.rfl

theorem toNat_toLower (c : Char) :
    c.toLower.toNat = if 65 ≤ c.toNat ∧ c.toNat ≤ 90 then c.toNat + 32 else c.toNat := by
  delta Char.toLower
  by_cases hUpper : c.val ≥ 'A'.val ∧ c.val ≤ 'Z'.val
  · have hLetter : 65 ≤ c.toNat ∧ c.toNat ≤ 90 := isUpper_iff_toNat.mp hUpper
    rw [dif_pos hUpper, if_pos hLetter]
    change (c.val + 32).toNat = c.val.toNat + 32
    rw [UInt32.toNat_add]
    exact Nat.mod_eq_of_lt (by change c.toNat + 32 < 2 ^ 32; omega)
  · rw [dif_neg hUpper, if_neg fun hLetter => hUpper (isUpper_iff_toNat.mpr hLetter)]

theorem toLower_eq_toLower_iff {c d : Char} : c.toLower = d.toLower ↔ SameLetter c d := by
  rw [← Char.toNat_inj, toNat_toLower, toNat_toLower, SameLetter, IsCasePair, IsCasePair,
    ← Char.toNat_inj]
  simp only [← and_assoc, isUpper_iff_toNat]
  split <;> split <;> omega

/-- No letter is blank. -/
theorem isBlank_toLower (c : Char) : isBlank c.toLower = isBlank c := by
  rw [Bool.eq_iff_iff]
  simp only [isBlank, toNat_toLower, Bool.or_eq_true, Bool.and_eq_true, decide_eq_true_eq, beq_iff_eq]
  split <;> omega

theorem Text.foldCase_trimEnd (t : Text) : t.trimEnd.foldCase = t.foldCase.trimEnd := by
  have hBlank : isBlank ∘ Char.toLower = isBlank := funext isBlank_toLower
  rw [Text.foldCase, Text.foldCase, Text.trimEnd, Text.trimEnd, ← List.map_reverse,
    List.dropWhile_map, hBlank, List.map_reverse]

/-- Two texts that differ at most in the case of letters from A to Z. -/
def Text.SameUpToCase (a b : Text) : Prop :=
  List.Forall₂ SameLetter a b

theorem Text.foldCase_eq_foldCase_iff {a b : Text} : a.foldCase = b.foldCase ↔ a.SameUpToCase b := by
  have hLetters : (fun c d : Char => c.toLower = d.toLower) = SameLetter := by
    funext c d
    exact propext toLower_eq_toLower_iff
  rw [Text.foldCase, Text.foldCase, ← List.forall₂_eq_eq_eq, List.forall₂_map_left_iff,
    List.forall₂_map_right_iff, hLetters]
  rfl

end ErDiagram
