import ErDiagram.Edit
import ErDiagram.Proofs.Text.Span

/-!
Edits of a text that is written as stretches, some of them to be replaced. The edits then lie one
behind the other, so none of them is left out, and what they make of the text is the stretches with
their replacements.
-/

namespace ErDiagram

/-- A part of a text, and what it is replaced by, if it is. -/
structure Stretch where
  old : Text
  new? : Option Text := none

namespace Stretch

def new (s : Stretch) : Text :=
  s.new?.getD s.old

/-- The text that stretches make up. -/
def before (stretches : List Stretch) : Text :=
  stretches.flatMap old

/-- The text that they make up once they are replaced. -/
def after (stretches : List Stretch) : Text :=
  stretches.flatMap new

/-- The edit for one stretch that starts at a position, if it is replaced. -/
def edit? (start : Nat) (s : Stretch) : Option Edit :=
  s.new?.map fun text => ⟨⟨start, start + s.old.size⟩, text⟩

/-- The edits for stretches, the first of which starts at a position. -/
def edits : Nat → List Stretch → List Edit
  | _, [] => []
  | start, s :: rest => (s.edit? start).toList ++ edits (start + s.old.size) rest

@[simp] theorem before_nil : before [] = [] := rfl

@[simp] theorem before_cons (s : Stretch) (rest : List Stretch) :
    before (s :: rest) = s.old ++ before rest := rfl

@[simp] theorem after_nil : after [] = [] := rfl

@[simp] theorem after_cons (s : Stretch) (rest : List Stretch) :
    after (s :: rest) = s.new ++ after rest := rfl

theorem edits_kept (start : Nat) (old : Text) (rest : List Stretch) :
    edits start (⟨old, none⟩ :: rest) = edits (start + old.size) rest := rfl

theorem edits_replaced (start : Nat) (old text : Text) (rest : List Stretch) :
    edits start (⟨old, some text⟩ :: rest) =
      ⟨⟨start, start + old.size⟩, text⟩ :: edits (start + old.size) rest := rfl

theorem start_le_of_mem_edits {start : Nat} {stretches : List Stretch} {edit : Edit}
    (h : edit ∈ edits start stretches) : start ≤ edit.span.start := by
  induction stretches generalizing start with
  | nil => cases h
  | cons s rest ih =>
      obtain ⟨old, _ | text⟩ := s
      · have := ih (edits_kept start old rest ▸ h)
        omega
      · rw [edits_replaced, List.mem_cons] at h
        rcases h with rfl | hLater
        · exact Nat.le_refl start
        · have := ih hLater
          omega

theorem insert_of_le {edit : Edit} {sorted : List Edit}
    (h : ∀ other ∈ sorted, edit.span.start ≤ other.span.start) :
    Edit.insert edit sorted = edit :: sorted := by
  cases sorted with
  | nil => rfl
  | cons other rest => rw [Edit.insert, if_pos (h other List.mem_cons_self)]

/-- Edits of stretches stand in order already. -/
theorem sort_edits (start : Nat) (stretches : List Stretch) :
    Edit.sort (edits start stretches) = edits start stretches := by
  induction stretches generalizing start with
  | nil => rfl
  | cons s rest ih =>
      obtain ⟨old, _ | text⟩ := s
      · rw [edits_kept, ih]
      · rw [edits_replaced, Edit.sort, ih]
        apply insert_of_le
        intro other hOther
        have := start_le_of_mem_edits hOther
        simp only
        omega

/-- None of the edits is left out of a text that the stretches are the rest of. -/
theorem select_edits {size start cursor : Nat} {stretches : List Stretch}
    (hCursor : cursor ≤ start) (hSize : start + (before stretches).size ≤ size) :
    Edit.select size cursor (edits start stretches) = edits start stretches := by
  induction stretches generalizing start cursor with
  | nil => rfl
  | cons s rest ih =>
      rw [before_cons, Text.size_append] at hSize
      obtain ⟨old, _ | text⟩ := s
      all_goals simp only at hSize
      · rw [edits_kept, ih (by omega) (by omega)]
      · rw [edits_replaced, Edit.select, if_pos, ih (Nat.le_refl _) (by simp only; omega)]
        simp only [Edit.fits, Bool.and_eq_true, decide_eq_true_eq]
        omega

/-- Splicing from a position copies what lies between it and the stretches. -/
theorem splice_edits {t : Text} {stretches : List Stretch} (done kept : Text)
    (h : t = done ++ kept ++ before stretches) :
    Edit.splice t done.size (edits (done.size + kept.size) stretches) = kept ++ after stretches := by
  induction stretches generalizing done kept with
  | nil =>
      rw [edits, Edit.splice, after_nil, List.append_nil]
      exact Text.dropBytes_of_eq (by simpa using h) rfl
  | cons s rest ih =>
      obtain ⟨old, _ | text⟩ := s
      · have hRest := ih done (kept ++ old) (by rw [h, before_cons]; simp)
        rw [Text.size_append, ← Nat.add_assoc] at hRest
        rw [edits_kept, hRest, after_cons, List.append_assoc]
        rfl
      · have hRest := ih (done ++ kept ++ old) [] (by rw [h, before_cons]; simp)
        have hKept : t.slice ⟨done.size, done.size + kept.size⟩ = kept :=
          Text.slice_of_eq h rfl rfl
        simp only [Text.size_append, Text.size_nil, Nat.add_zero, List.nil_append] at hRest
        rw [edits_replaced, Edit.splice, hKept, hRest, after_cons, List.append_assoc]
        rfl

/-- Applying the edits of stretches replaces the stretches and nothing else. -/
theorem applyAll_edits {t : Text} {stretches : List Stretch} (h : t = before stretches) :
    Edit.applyAll t (edits 0 stretches) = after stretches := by
  have hSelect : Edit.select t.size 0 (edits 0 stretches) = edits 0 stretches :=
    select_edits (Nat.le_refl 0) (Nat.le_of_eq (by rw [h, Nat.zero_add]))
  have hSplice := splice_edits [] [] h
  rw [Edit.applyAll, sort_edits, hSelect]
  exact hSplice

/-- A single edit of the middle one of three parts. -/
theorem applyAll_middle {t a b c : Text} (h : t = a ++ b ++ c) (text : Text) :
    Edit.applyAll t [⟨⟨a.size, a.size + b.size⟩, text⟩] = a ++ text ++ c := by
  have hApply := @applyAll_edits t [⟨a, none⟩, ⟨b, some text⟩, ⟨c, none⟩] (by simp [h])
  have hEdits : edits 0 [⟨a, none⟩, ⟨b, some text⟩, ⟨c, none⟩] =
      [⟨⟨a.size, a.size + b.size⟩, text⟩] := by
    simp [edits, edit?]
  rw [hEdits] at hApply
  rw [hApply]
  simp [new]

end Stretch

/-- An edit of a part of a text. -/
theorem Span.Within.applyAll {span : Span} {t : Text} (h : span.Within t) (text : Text) :
    Edit.applyAll t [⟨span, text⟩] = t.takeBytes span.start ++ text ++ t.dropBytes span.stop := by
  obtain ⟨front, back, hText, hSpan⟩ := h.exists_parts
  have hApply := Stretch.applyAll_middle hText text
  rw [← hSpan] at hApply
  rw [hApply, Text.takeBytes_of_eq (hText.trans (List.append_assoc ..)) (congrArg Span.start hSpan),
    Text.dropBytes_of_eq hText ((congrArg Span.stop hSpan).trans (Text.size_append ..).symm)]

/-- Without edits a text stays as it is. -/
@[simp] theorem Edit.applyAll_nil (t : Text) : Edit.applyAll t [] = t := by
  simp [applyAll, sort, select, splice]

end ErDiagram
