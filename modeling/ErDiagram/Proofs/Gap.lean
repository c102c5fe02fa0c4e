import ErDiagram.Proofs.Text.Trim
import ErDiagram.Token

/-!
Gaps, and texts that lose some of their separating characters. Whatever does not look at those
characters, blank or not, reads the same in both texts.
-/

namespace ErDiagram

/-- Whether a text has nothing but separating characters. -/
def isAllGap (t : Text) : Bool :=
  t.all isGap

@[simp] theorem isAllGap_nil : isAllGap [] = true := rfl

@[simp] theorem isAllGap_cons (c : Char) (t : Text) :
    isAllGap (c :: t) = (isGap c && isAllGap t) := rfl

theorem isBlank_of_isGap {c : Char} (h : isGap c = true) : isBlank c = true := by
  rw [isGap, Bool.or_eq_true, beq_iff_eq, beq_iff_eq] at h
  rcases h with rfl | rfl <;> rfl

theorem isGap_of_not_blank {c : Char} (h : isBlank c = false) : isGap c = false := by
  apply Bool.eq_false_iff.mpr
  intro hGap
  rw [isBlank_of_isGap hGap] at h
  cases h

theorem isAllBlank_of_isAllGap {t : Text} (h : isAllGap t = true) : t.isAllBlank = true :=
  Text.isAllBlank_iff.mpr fun c hc => isBlank_of_isGap (List.all_eq_true.mp h c hc)

/-- In front of a text that starts with no blank stands no gap. -/
theorem eq_nil_of_gap_append {gap b : Text} (hGap : isAllGap gap = true)
    (hHead : ∀ c, (gap ++ b).head? = some c → isBlank c = false) : gap = [] := by
  cases gap with
  | nil => rfl
  | cons c gap =>
      rw [isAllGap_cons, Bool.and_eq_true] at hGap
      have hBlank := hHead c rfl
      rw [isBlank_of_isGap hGap.1] at hBlank
      cases hBlank

/-- Behind a text that ends with no blank stands no gap. -/
theorem eq_nil_of_append_gap {a gap : Text} (hGap : isAllGap gap = true)
    (hLast : ∀ c, (a ++ gap).getLast? = some c → isBlank c = false) : gap = [] := by
  rcases List.eq_nil_or_concat gap with rfl | ⟨gap, c, rfl⟩
  · rfl
  · have hBlank := hLast c (by simp)
    rw [isBlank_of_isGap (List.all_eq_true.mp hGap c (by simp))] at hBlank
    cases hBlank

/-- The gap in front of a text, and the rest, which starts with no separating character. -/
theorem exists_gap (t : Text) :
    ∃ gap rest, t = gap ++ rest ∧ isAllGap gap = true ∧
      ∀ c, rest.head? = some c → isGap c = false := by
  refine ⟨t.takeWhile isGap, t.dropWhile isGap, List.takeWhile_append_dropWhile.symm, ?_, ?_⟩
  · exact List.all_eq_true.mpr fun c hc => List.mem_takeWhile_imp hc
  · intro c hc
    have hNot := List.head?_dropWhile_not isGap t
    simpa [hc] using hNot

/-- The second text is the first one without some of its separating characters. -/
inductive Squeezed : Text → Text → Prop where
  | nil : Squeezed [] []
  | keep {old new : Text} (c : Char) (tail : Squeezed old new) : Squeezed (c :: old) (c :: new)
  | drop {old new : Text} {c : Char} (hGap : isGap c = true) (tail : Squeezed old new) :
      Squeezed (c :: old) new

namespace Squeezed

variable {old new : Text}

theorem refl (t : Text) : Squeezed t t := by
  induction t with
  | nil => exact .nil
  | cons c t ih => exact .keep c ih

theorem append {old' new' : Text} (h : Squeezed old new) (h' : Squeezed old' new') :
    Squeezed (old ++ old') (new ++ new') := by
  induction h with
  | nil => exact h'
  | keep c tail ih => exact .keep c ih
  | drop hGap tail ih => exact .drop hGap ih

theorem of_gap {gap : Text} (h : isAllGap gap = true) : Squeezed gap [] := by
  induction gap with
  | nil => exact .nil
  | cons c gap ih =>
      rw [isAllGap_cons, Bool.and_eq_true] at h
      exact .drop h.1 (ih h.2)

theorem subset (h : Squeezed old new) : new ⊆ old := by
  induction h with
  | nil => exact fun _ => id
  | keep c tail ih => exact List.cons_subset_cons c ih
  | drop hGap tail ih => exact fun c hc => List.mem_cons_of_mem _ (ih hc)

theorem length_le (h : Squeezed old new) : new.length ≤ old.length := by
  induction h with
  | nil => exact Nat.le_refl _
  | keep c tail ih => exact Nat.succ_le_succ ih
  | drop hGap tail ih => exact Nat.le_succ_of_le ih

theorem isAllBlank_eq (h : Squeezed old new) : old.isAllBlank = new.isAllBlank := by
  induction h with
  | nil => rfl
  | keep c tail ih => rw [Text.isAllBlank_cons, Text.isAllBlank_cons, ih]
  | drop hGap tail ih => rw [Text.isAllBlank_cons, isBlank_of_isGap hGap, ih, Bool.true_and]

/-- A part of the shorter text comes from a part of the longer one, and the other way round. -/
theorem split (h : Squeezed old new) {a b : Text} (hNew : new = a ++ b) :
    ∃ a' b', old = a' ++ b' ∧ Squeezed a' a ∧ Squeezed b' b := by
  induction h generalizing a with
  | nil =>
      obtain ⟨rfl, rfl⟩ := List.append_eq_nil_iff.mp hNew.symm
      exact ⟨[], [], rfl, .nil, .nil⟩
  | @keep old new c tail ih =>
      cases a with
      | nil =>
          obtain rfl : c :: new = b := hNew
          exact ⟨[], c :: old, rfl, .nil, tail.keep c⟩
      | cons d a =>
          obtain ⟨rfl, hTail⟩ := List.cons.inj hNew
          obtain ⟨a', b', rfl, hA, hB⟩ := ih hTail
          exact ⟨c :: a', b', rfl, .keep c hA, hB⟩
  | @drop old new c hGap tail ih =>
      obtain ⟨a', b', rfl, hA, hB⟩ := ih hNew
      exact ⟨c :: a', b', rfl, .drop hGap hA, hB⟩

theorem split_old {a b : Text} (h : Squeezed (a ++ b) new) :
    ∃ a' b', new = a' ++ b' ∧ Squeezed a a' ∧ Squeezed b b' := by
  induction a generalizing new with
  | nil => exact ⟨[], new, rfl, .nil, h⟩
  | cons c a ih =>
      cases h with
      | keep _ tail =>
          obtain ⟨a', b', rfl, hA, hB⟩ := ih tail
          exact ⟨c :: a', b', rfl, .keep c hA, hB⟩
      | drop hGap tail =>
          obtain ⟨a', b', rfl, hA, hB⟩ := ih tail
          exact ⟨a', b', rfl, .drop hGap hA, hB⟩

/-- A text without separating characters loses nothing. -/
theorem eq_of_no_gap (h : Squeezed old new) (hOld : ∀ c ∈ old, isGap c = false) : new = old := by
  induction h with
  | nil => rfl
  | keep c tail ih => rw [ih fun d hd => hOld d (List.mem_cons_of_mem _ hd)]
  | @drop old new c hGap tail ih =>
      rw [hOld c List.mem_cons_self] at hGap
      cases hGap

/-- What has no separating character and stands in the longer text stands in the shorter one. -/
theorem exists_of_parts {a pattern b : Text} (h : Squeezed (a ++ pattern ++ b) new)
    (hPattern : ∀ c ∈ pattern, isGap c = false) :
    ∃ a' b', new = a' ++ pattern ++ b' ∧ Squeezed a a' ∧ Squeezed b b' := by
  obtain ⟨front, b', rfl, hFront, hB⟩ := h.split_old
  obtain ⟨a', pattern', rfl, hA, hMiddle⟩ := hFront.split_old
  exact ⟨a', b', by rw [hMiddle.eq_of_no_gap hPattern], hA, hB⟩

/-- A character of the shorter text stands in the longer one, with the rest around it. -/
theorem exists_of_char {a b : Text} {c : Char} (h : Squeezed old new) (hNew : new = a ++ c :: b) :
    ∃ a' b', old = a' ++ c :: b' ∧ Squeezed a' a ∧ Squeezed b' b := by
  obtain ⟨a', rest, rfl, hA, hRest⟩ := h.split hNew
  clear hNew h
  induction rest generalizing a a' with
  | nil => cases hRest
  | cons d rest ih =>
      cases hRest with
      | keep _ tail => exact ⟨a', rest, rfl, hA, tail⟩
      | drop hGap tail =>
          have hFront : Squeezed (a' ++ [d]) a := by
            simpa using hA.append (.of_gap (by simp [hGap]))
          obtain ⟨a'', b', hEq, hA', hB⟩ := ih (a' ++ [d]) hFront tail
          exact ⟨a'', b', by rw [← hEq]; simp, hA', hB⟩

/-- Looking up to the first character of some kind finds blanks in both texts or in neither. -/
theorem isAllBlank_takeWhile (h : Squeezed old new) {p : Char → Bool}
    (hp : ∀ c, isGap c = true → p c = true) :
    Text.isAllBlank (old.takeWhile p) = Text.isAllBlank (new.takeWhile p) := by
  induction h with
  | nil => rfl
  | keep c tail ih =>
      cases hc : p c with
      | true => rw [List.takeWhile_cons_of_pos hc, List.takeWhile_cons_of_pos hc,
          Text.isAllBlank_cons, Text.isAllBlank_cons, ih]
      | false => rw [List.takeWhile_cons_of_neg (by simp [hc]),
          List.takeWhile_cons_of_neg (by simp [hc])]
  | drop hGap tail ih =>
      rw [List.takeWhile_cons_of_pos (hp _ hGap), Text.isAllBlank_cons, isBlank_of_isGap hGap, ih,
        Bool.true_and]

end Squeezed

end ErDiagram
