import ErDiagram.Proofs.Edit
import ErDiagram.Proofs.Text.Span
import Mathlib.Data.List.Nodup

/-!
Edits in any arrangement. A stable scan by start tells which edits are applied, and what is made of the
text is what replacing their spans all at once makes of it. Where no two edits get in each other's way,
the order in which they are given makes no difference.
-/

namespace ErDiagram

/-- Edits of stretches start and end between characters. -/
theorem Stretch.hasBoundary_of_mem_edits {t front : Text} {stretches : List Stretch}
    (hText : t = front ++ Stretch.before stretches) {edit : Edit}
    (hEdit : edit ∈ Stretch.edits front.size stretches) :
    t.hasBoundary edit.span.start = true ∧ t.hasBoundary edit.span.stop = true := by
  induction stretches generalizing front with
  | nil => cases hEdit
  | cons s rest ih =>
      have hRest : t = (front ++ s.old) ++ Stretch.before rest := by
        rw [hText, Stretch.before_cons, List.append_assoc]
      have hLater (hIn : edit ∈ Stretch.edits (front.size + s.old.size) rest) :
          t.hasBoundary edit.span.start = true ∧ t.hasBoundary edit.span.stop = true :=
        ih hRest (by rwa [Text.size_append])
      obtain ⟨old, _ | text⟩ := s
      · exact hLater (Stretch.edits_kept front.size old rest ▸ hEdit)
      · rw [Stretch.edits_replaced, List.mem_cons] at hEdit
        rcases hEdit with rfl | hIn
        · exact ⟨Text.hasBoundary_of_eq hText rfl,
            Text.hasBoundary_of_eq hRest (Text.size_append ..).symm⟩
        · exact hLater hIn

namespace Edit

/-- The offsets of the edits that lie in the text are positions between its characters. Nothing is asked
of an offset behind the end. -/
def OnBoundaries (t : Text) (edits : List Edit) : Prop :=
  ∀ edit ∈ edits, (edit.span.start ≤ t.size → t.hasBoundary edit.span.start = true) ∧
    (edit.span.stop ≤ t.size → t.hasBoundary edit.span.stop = true)

/-- Edits that can be made at once: all lie in the text, no two start at the same place, and of any two
the one that starts first ends where the other one starts, or in front of that. -/
structure Compatible (t : Text) (edits : List Edit) : Prop where
  inside : ∀ edit ∈ edits, edit.span.start ≤ edit.span.stop ∧ edit.span.stop ≤ t.size
  starts : (edits.map fun edit => edit.span.start).Nodup
  apart : ∀ a ∈ edits, ∀ b ∈ edits, a.span.start < b.span.start → a.span.stop ≤ b.span.start

/-- Where the last of some edits ends. -/
def reached (kept : List Edit) : Nat :=
  (kept.getLast?.map fun last => last.span.stop).getD 0

/-- Keep an edit that lies in a text of `size` bytes, is not inverted and starts where the last kept edit
ends, or behind that. -/
def keepNext (size : Nat) (kept : List Edit) (edit : Edit) : List Edit :=
  if edit.span.stop ≤ size ∧ edit.span.start ≤ edit.span.stop ∧ reached kept ≤ edit.span.start then
    kept ++ [edit]
  else kept

/-- The edits that are kept when a list is scanned by start. Edits with the same start are met in the
order of the list. -/
def kept (t : Text) (edits : List Edit) : List Edit :=
  (edits.mergeSort fun a b => a.span.start ≤ b.span.start).foldl (keepNext t.size) []

variable {t : Text} {edits : List Edit}

/-! Sorting by start is the stable sort of the library. -/

theorem insert_append {edit : Edit} {front : List Edit}
    (hFront : ∀ other ∈ front, other.span.start < edit.span.start) (back : List Edit) :
    insert edit (front ++ back) = front ++ insert edit back := by
  induction front with
  | nil => rfl
  | cons other front ih =>
      rw [List.forall_mem_cons] at hFront
      rw [List.cons_append, insert, if_neg (Nat.not_le_of_lt hFront.1), ih hFront.2, List.cons_append]

theorem startsBefore_trans (a b c : Edit) (hab : decide (a.span.start ≤ b.span.start) = true)
    (hbc : decide (b.span.start ≤ c.span.start) = true) :
    decide (a.span.start ≤ c.span.start) = true := by
  rw [decide_eq_true_eq] at hab hbc ⊢
  exact Nat.le_trans hab hbc

theorem startsBefore_total (a b : Edit) :
    (decide (a.span.start ≤ b.span.start) || decide (b.span.start ≤ a.span.start)) = true := by
  rw [Bool.or_eq_true, decide_eq_true_eq, decide_eq_true_eq]
  exact Nat.le_total _ _

theorem sort_eq_mergeSort (edits : List Edit) :
    sort edits = edits.mergeSort fun a b => a.span.start ≤ b.span.start := by
  induction edits with
  | nil => exact List.mergeSort_nil.symm
  | cons edit rest ih =>
      obtain ⟨front, back, hWhole, hRest, hFront⟩ :=
        List.mergeSort_cons startsBefore_trans startsBefore_total edit rest
      have hSorted := List.pairwise_mergeSort startsBefore_trans startsBefore_total (edit :: rest)
      rw [hWhole, List.pairwise_append, List.pairwise_cons] at hSorted
      obtain ⟨-, ⟨hBack, -⟩, -⟩ := hSorted
      rw [sort, ih, hRest, hWhole, insert_append, Stretch.insert_of_le]
      · intro other hOther
        simpa using hBack other hOther
      · intro other hOther
        simpa using hFront other hOther

theorem sort_perm (edits : List Edit) : (sort edits).Perm edits :=
  sort_eq_mergeSort edits ▸ List.mergeSort_perm edits _

theorem pairwise_sort (edits : List Edit) :
    (sort edits).Pairwise fun a b => a.span.start ≤ b.span.start := by
  have hSorted := List.pairwise_mergeSort startsBefore_trans startsBefore_total edits
  rw [← sort_eq_mergeSort] at hSorted
  exact hSorted.imp of_decide_eq_true

/-- Inserting an edit into sorted edits and leaving some edits out can change places. -/
theorem filter_insert {edit : Edit} {sorted : List Edit} (p : Edit → Bool)
    (hSorted : sorted.Pairwise fun a b => a.span.start ≤ b.span.start) :
    (insert edit sorted).filter p =
      if p edit then insert edit (sorted.filter p) else sorted.filter p := by
  induction sorted with
  | nil => cases hp : p edit <;> simp [insert, hp]
  | cons other rest ih =>
      obtain ⟨hOther, hRest⟩ := List.pairwise_cons.mp hSorted
      by_cases hLe : edit.span.start ≤ other.span.start
      · have hAll : ∀ later ∈ (other :: rest).filter p, edit.span.start ≤ later.span.start := by
          intro later hLater
          rcases List.mem_cons.mp (List.mem_filter.mp hLater).1 with rfl | hIn
          · exact hLe
          · exact Nat.le_trans hLe (hOther later hIn)
        rw [insert, if_pos hLe, Stretch.insert_of_le hAll, List.filter_cons]
      · rw [insert, if_neg hLe, List.filter_cons, ih hRest, List.filter_cons]
        cases hp : p edit with
        | false => simp
        | true =>
            cases hq : p other with
            | false => simp
            | true => simp [insert, hLe]

theorem filter_sort (p : Edit → Bool) (edits : List Edit) :
    sort (edits.filter p) = (sort edits).filter p := by
  induction edits with
  | nil => rfl
  | cons edit rest ih =>
      rw [sort, filter_insert p (pairwise_sort rest), ← ih, List.filter_cons]
      cases p edit with
      | false => rfl
      | true => rfl

/-! The edits that are applied are those that the scan keeps. -/

theorem reached_append (kept : List Edit) (edit : Edit) : reached (kept ++ [edit]) = edit.span.stop := by
  rw [reached, List.getLast?_concat]
  rfl

theorem fits_iff {cursor size : Nat} {edit : Edit} :
    edit.fits cursor size = true ↔
      cursor ≤ edit.span.start ∧ edit.span.stop ≤ size ∧ edit.span.start ≤ edit.span.stop := by
  simp [fits, and_assoc]

theorem keepNext_eq (size : Nat) (kept : List Edit) (edit : Edit) :
    keepNext size kept edit = if edit.fits (reached kept) size then kept ++ [edit] else kept := by
  rw [keepNext]
  congr 1
  rw [fits_iff]
  exact propext ⟨fun ⟨hStop, hLe, hReached⟩ => ⟨hReached, hStop, hLe⟩,
    fun ⟨hReached, hStop, hLe⟩ => ⟨hStop, hLe, hReached⟩⟩

theorem foldl_keepNext (size : Nat) (kept sorted : List Edit) :
    sorted.foldl (keepNext size) kept = kept ++ select size (reached kept) sorted := by
  induction sorted generalizing kept with
  | nil => exact (List.append_nil kept).symm
  | cons edit rest ih =>
      rw [List.foldl_cons, ih, keepNext_eq, select]
      cases edit.fits (reached kept) size with
      | true => simp [reached_append]
      | false => simp

theorem kept_eq_select (t : Text) (edits : List Edit) :
    kept t edits = select t.size 0 (sort edits) := by
  rw [kept, ← sort_eq_mergeSort, foldl_keepNext]
  rfl

/-- An edit that is not applied makes no difference to the others. -/
theorem select_filter {size cursor : Nat} {sorted : List Edit} {p : Edit → Bool}
    (hKept : ∀ edit ∈ select size cursor sorted, p edit = true) :
    select size cursor (sorted.filter p) = select size cursor sorted := by
  induction sorted generalizing cursor with
  | nil => rfl
  | cons edit rest ih =>
      rw [select] at hKept ⊢
      cases hFits : edit.fits cursor size with
      | true =>
          rw [hFits, if_pos rfl, List.forall_mem_cons] at hKept
          rw [List.filter_cons, if_pos hKept.1, select, hFits, if_pos rfl, if_pos rfl, ih hKept.2]
      | false =>
          rw [hFits, if_neg Bool.false_ne_true] at hKept
          rw [if_neg Bool.false_ne_true, List.filter_cons, ← ih hKept]
          split
          · rw [select, hFits, if_neg Bool.false_ne_true]
          · rfl

theorem kept_filter {p : Edit → Bool} (hKept : ∀ edit ∈ kept t edits, p edit = true) :
    kept t (edits.filter p) = kept t edits := by
  rw [kept_eq_select] at hKept
  rw [kept_eq_select, kept_eq_select, filter_sort, select_filter hKept]

/-! Between characters the scan leaves a text in stretches, and nothing is cut. -/

theorem exists_stretches_of_select {t : Text} {sorted : List Edit} (hOn : OnBoundaries t sorted)
    {done rest : Text} (hText : t = done ++ rest) :
    ∃ stretches, rest = Stretch.before stretches ∧
      Stretch.edits done.size stretches = select t.size done.size sorted := by
  induction sorted generalizing done rest with
  | nil => exact ⟨[⟨rest, none⟩], by simp, rfl⟩
  | cons edit later ih =>
      obtain ⟨hEdit, hLater⟩ := List.forall_mem_cons.mp hOn
      rw [select]
      cases hFits : edit.fits done.size t.size with
      | false => exact ih hLater hText
      | true =>
          obtain ⟨hCursor, hStop, hLe⟩ := fits_iff.mp hFits
          obtain ⟨front, old, back, hParts, hFront, hOld⟩ := Text.exists_parts_of_hasBoundary hLe
            (hEdit.1 (Nat.le_trans hLe hStop)) (hEdit.2 hStop)
          obtain ⟨between, rfl⟩ := Text.exists_between hText
            (hParts.trans (List.append_assoc ..)) (hFront ▸ hCursor)
          obtain ⟨stretches, hBack, hEdits⟩ := ih hLater hParts
          rw [hText] at hParts
          have hStart : done.size + between.size = edit.span.start := by
            rw [hFront, Text.size_append]
          have hLast : edit.span.start + old.size = edit.span.stop := by rw [hFront, hOld]
          rw [Text.size_append, ← hOld] at hEdits
          refine ⟨⟨between, none⟩ :: ⟨old, some edit.replacement⟩ :: stretches, ?_, ?_⟩
          · rw [Stretch.before_cons, Stretch.before_cons, ← hBack]
            simpa using hParts
          · rw [if_pos rfl, Stretch.edits_kept, Stretch.edits_replaced, hStart, hLast, hEdits]

/-- Edits of stretches, once they are what a scan keeps, are all applied, and nothing is cut. -/
theorem applyAll?_of_kept {stretches : List Stretch} (hText : t = Stretch.before stretches)
    (hKept : kept t edits = Stretch.edits 0 stretches) :
    applyAll? t edits = some (Stretch.after stretches) := by
  have hUncut : ((Stretch.edits 0 stretches).all fun edit =>
      t.hasBoundary edit.span.start && t.hasBoundary edit.span.stop) = true := by
    rw [List.all_eq_true]
    intro edit hEdit
    have hFront : t = [] ++ Stretch.before stretches := hText
    obtain ⟨hStart, hStop⟩ := Stretch.hasBoundary_of_mem_edits hFront hEdit
    rw [hStart, hStop]
    rfl
  rw [kept_eq_select] at hKept
  rw [applyAll?, hKept, if_pos hUncut]
  exact congrArg some (Stretch.splice_edits [] [] hText)

theorem applyAll_of_applyAll? {result : Text} (h : applyAll? t edits = some result) :
    applyAll t edits = result := by
  rw [applyAll?] at h
  split at h
  · exact Option.some.inj h
  · cases h

theorem exists_stretches (hOn : OnBoundaries t edits) :
    ∃ stretches, t = Stretch.before stretches ∧ Stretch.edits 0 stretches = kept t edits := by
  rw [kept_eq_select]
  refine exists_stretches_of_select (fun edit hEdit => hOn edit ?_) (List.nil_append t).symm
  exact (sort_perm edits).mem_iff.mp hEdit

/-! Compatible edits are all kept, and only one order of their starts is possible. -/

theorem sort_eq_of_perm {other : List Edit} (hStarts : (edits.map fun edit => edit.span.start).Nodup)
    (hPerm : other.Perm edits) : sort other = sort edits := by
  have hSame := (sort_perm other).trans (hPerm.trans (sort_perm edits).symm)
  refine List.Perm.eq_of_pairwise (fun a b ha hb hab hba => ?_) (pairwise_sort other)
    (pairwise_sort edits) hSame
  refine List.inj_on_of_nodup_map hStarts ?_ ?_ (Nat.le_antisymm hab hba)
  · exact (sort_perm edits).mem_iff.mp (hSame.mem_iff.mp ha)
  · exact (sort_perm edits).mem_iff.mp hb

theorem select_eq_self {size cursor : Nat} {sorted : List Edit}
    (hInside : ∀ edit ∈ sorted, edit.span.start ≤ edit.span.stop ∧ edit.span.stop ≤ size)
    (hCursor : ∀ edit ∈ sorted, cursor ≤ edit.span.start)
    (hBefore : sorted.Pairwise fun a b => a.span.Before b.span) :
    select size cursor sorted = sorted := by
  induction sorted generalizing cursor with
  | nil => rfl
  | cons edit later ih =>
      rw [List.forall_mem_cons] at hInside hCursor
      rw [List.pairwise_cons] at hBefore
      obtain ⟨⟨hLe, hStop⟩, hInsideLater⟩ := hInside
      rw [select, if_pos (fits_iff.mpr ⟨hCursor.1, hStop, hLe⟩), ih hInsideLater hBefore.1 hBefore.2]

theorem Compatible.kept_eq (h : Compatible t edits) : kept t edits = sort edits := by
  have hMem {edit : Edit} : edit ∈ sort edits ↔ edit ∈ edits := (sort_perm edits).mem_iff
  have hStarts : (sort edits).Pairwise fun a b => a.span.start ≠ b.span.start :=
    List.pairwise_map.mp (((sort_perm edits).map _).nodup_iff.mpr h.starts)
  have hBefore : (sort edits).Pairwise fun a b => a.span.Before b.span := by
    refine ((pairwise_sort edits).and hStarts).imp_of_mem fun ha hb ⟨hLe, hNe⟩ => ?_
    exact h.apart _ (hMem.mp ha) _ (hMem.mp hb) (Nat.lt_of_le_of_ne hLe hNe)
  rw [kept_eq_select]
  exact select_eq_self (fun edit hEdit => h.inside edit (hMem.mp hEdit)) (fun _ _ => Nat.zero_le _)
    hBefore

/-- Edits at positions between characters are replacements made all at once. Compatible edits cut the
text into stretches, and in whatever order they are given each of them replaces its own stretch and all
else is copied. Of any other edits exactly those that the scan keeps have an effect: the others can be
left out, all of them or some. Nothing is ever cut inside a character. -/
theorem applyAll?_simultaneous {t : Text} {edits : List Edit} (hOn : OnBoundaries t edits) :
    (Compatible t edits →
      ∃ stretches, t = Stretch.before stretches ∧ (Stretch.edits 0 stretches).Perm edits ∧
        ∀ other : List Edit, other.Perm edits → applyAll? t other = some (Stretch.after stretches)) ∧
      (∃ stretches, t = Stretch.before stretches ∧ Stretch.edits 0 stretches = kept t edits ∧
        applyAll? t edits = some (Stretch.after stretches) ∧
        applyAll t edits = Stretch.after stretches) ∧
      applyAll? t (kept t edits) = applyAll? t edits ∧
      ∀ p : Edit → Bool, (∀ edit ∈ kept t edits, p edit = true) →
        applyAll? t (edits.filter p) = applyAll? t edits := by
  obtain ⟨stretches, hText, hKept⟩ := exists_stretches hOn
  have hApply := applyAll?_of_kept hText hKept.symm
  refine ⟨fun hCompatible => ⟨stretches, hText, ?_, fun other hPerm => ?_⟩,
    ⟨stretches, hText, hKept, hApply, applyAll_of_applyAll? hApply⟩, ?_, fun p hAll => ?_⟩
  · rw [hKept, hCompatible.kept_eq]
    exact sort_perm edits
  · refine applyAll?_of_kept hText ?_
    rw [kept_eq_select, sort_eq_of_perm hCompatible.starts hPerm, ← kept_eq_select, hKept]
  · rw [hApply, ← hKept]
    refine applyAll?_of_kept hText ?_
    rw [kept_eq_select, Stretch.sort_edits]
    exact Stretch.select_edits (Nat.le_refl 0) (Nat.le_of_eq (by rw [hText, Nat.zero_add]))
  · rw [hApply]
    exact applyAll?_of_kept hText ((kept_filter hAll).trans hKept.symm)

/-- Edits behind and in front of one another, given out of order, and others beside them that start at the
same place, are inverted or leave the text. -/
theorem applyAll?_simultaneous_clashing :
    let t := "é-b c".toList
    let chosen : List Edit := [⟨⟨0, 2⟩, "E".toList⟩, ⟨⟨2, 3⟩, "_".toList⟩, ⟨⟨4, 4⟩, ",".toList⟩]
    let clashing : List Edit := [⟨⟨5, 40⟩, "x".toList⟩, ⟨⟨4, 4⟩, ",".toList⟩, ⟨⟨0, 2⟩, "E".toList⟩,
      ⟨⟨0, 3⟩, "y".toList⟩, ⟨⟨2, 3⟩, "_".toList⟩, ⟨⟨3, 2⟩, "z".toList⟩]
    OnBoundaries t chosen ∧ Compatible t chosen ∧ applyAll? t chosen.reverse = applyAll? t chosen ∧
      OnBoundaries t clashing ∧ kept t clashing = chosen ∧
      (∀ edit ∈ kept t clashing, edit.span.start ≤ edit.span.stop) ∧
      applyAll? t (clashing.filter fun edit => edit.span.start ≤ edit.span.stop) =
        applyAll? t clashing ∧
      applyAll? t clashing = some "E_b, c".toList := by
  intro t chosen clashing
  have hChosen : OnBoundaries t chosen := by unfold OnBoundaries; decide
  have hClashing : OnBoundaries t clashing := by unfold OnBoundaries; decide
  have hCompatible : Compatible t chosen := ⟨by decide, by decide, by decide⟩
  have hKept : kept t clashing = chosen := by rw [kept_eq_select]; decide
  have hUpright : ∀ edit ∈ kept t clashing, edit.span.start ≤ edit.span.stop := by
    rw [hKept]
    decide
  obtain ⟨stretches, -, -, hOrders⟩ := (applyAll?_simultaneous hChosen).1 hCompatible
  refine ⟨hChosen, hCompatible, ?_, hClashing, hKept, hUpright, ?_, by decide⟩
  · rw [hOrders _ (List.reverse_perm chosen), hOrders chosen (List.Perm.refl chosen)]
  · refine (applyAll?_simultaneous hClashing).2.2.2 _ fun edit hEdit => ?_
    exact decide_eq_true (hUpright edit hEdit)

end Edit

end ErDiagram
