import ErDiagram.Name
import ErDiagram.Proofs.Comment
import ErDiagram.Proofs.Grammar

/-!
Texts with underscores for hyphens. Neither character is a blank or a quote, and what has no underscore
and stands in such a text stood there with the hyphens. So under a grammar whose tokens have no
underscore such a text shows nothing new. It has the same positions as well.
-/

namespace ErDiagram

/-- The second text is the first one with underscores for some of its hyphens. -/
inductive Underscored : Text → Text → Prop where
  | nil : Underscored [] []
  | keep {old new : Text} (c : Char) (tail : Underscored old new) :
      Underscored (c :: old) (c :: new)
  | hyphen {old new : Text} (tail : Underscored old new) : Underscored ('-' :: old) ('_' :: new)

namespace Underscored

variable {old new : Text}

theorem refl (t : Text) : Underscored t t := by
  induction t with
  | nil => exact .nil
  | cons c t ih => exact .keep c ih

theorem append {old' new' : Text} (h : Underscored old new) (h' : Underscored old' new') :
    Underscored (old ++ old') (new ++ new') := by
  induction h with
  | nil => exact h'
  | keep c tail ih => exact .keep c ih
  | hyphen tail ih => exact .hyphen ih

theorem length_eq (h : Underscored old new) : new.length = old.length := by
  induction h with
  | nil => rfl
  | keep c tail ih => rw [List.length_cons, List.length_cons, ih]
  | hyphen tail ih => rw [List.length_cons, List.length_cons, ih]

theorem split (h : Underscored old new) {a b : Text} (hNew : new = a ++ b) :
    ∃ a' b', old = a' ++ b' ∧ Underscored a' a ∧ Underscored b' b := by
  induction a generalizing old new with
  | nil =>
      obtain rfl : new = b := hNew
      exact ⟨[], old, rfl, .nil, h⟩
  | cons c a ih =>
      cases h with
      | nil => cases hNew
      | keep d tail =>
          obtain ⟨rfl, hTail⟩ := List.cons.inj hNew
          obtain ⟨a', b', rfl, hA, hB⟩ := ih tail hTail
          exact ⟨d :: a', b', rfl, .keep d hA, hB⟩
      | hyphen tail =>
          obtain ⟨rfl, hTail⟩ := List.cons.inj hNew
          obtain ⟨a', b', rfl, hA, hB⟩ := ih tail hTail
          exact ⟨'-' :: a', b', rfl, .hyphen hA, hB⟩

theorem eq_of_no_underscore (h : Underscored old new) (hNew : '_' ∉ new) : old = new := by
  induction h with
  | nil => rfl
  | keep c tail ih => rw [ih fun hc => hNew (List.mem_cons_of_mem _ hc)]
  | hyphen tail ih => exact absurd List.mem_cons_self hNew

/-- What has no underscore and stands in the new text stood in the old one, at the same place. -/
theorem exists_of_parts {x pattern y : Text} (h : Underscored old (x ++ pattern ++ y))
    (hPattern : '_' ∉ pattern) :
    ∃ x' y', old = x' ++ pattern ++ y' ∧ x'.length = x.length := by
  obtain ⟨front, y', rfl, hFront, -⟩ := h.split rfl
  obtain ⟨x', pattern', rfl, hX, hMiddle⟩ := hFront.split rfl
  exact ⟨x', y', by rw [hMiddle.eq_of_no_underscore hPattern], hX.length_eq.symm⟩

theorem mem_of_mem (h : Underscored old new) {c : Char} (hc : c ∈ new) (hChar : c ≠ '_') :
    c ∈ old := by
  induction h with
  | nil => exact hc
  | keep d tail ih =>
      rcases List.mem_cons.mp hc with rfl | hTail
      · exact List.mem_cons_self
      · exact List.mem_cons_of_mem _ (ih hTail)
  | hyphen tail ih =>
      rcases List.mem_cons.mp hc with rfl | hTail
      · exact absurd rfl hChar
      · exact List.mem_cons_of_mem _ (ih hTail)

theorem hasBlank_eq (h : Underscored old new) : new.hasBlank = old.hasBlank := by
  induction h with
  | nil => rfl
  | keep c tail ih => rw [Text.hasBlank_cons, Text.hasBlank_cons, ih]
  | hyphen tail ih => rw [Text.hasBlank_cons, Text.hasBlank_cons, ih]; rfl

theorem ne_nil (h : Underscored old new) (hne : old ≠ []) : new ≠ [] := by
  rintro rfl
  exact hne (List.length_eq_zero_iff.mp h.length_eq.symm)

theorem head_of_head (h : Underscored old new) {c : Char} (hc : new.head? = some c)
    (hChar : c ≠ '_') : old.head? = some c := by
  cases h with
  | nil => exact hc
  | keep d tail => exact hc
  | hyphen tail => exact absurd (Option.some.inj hc).symm hChar

theorem reverse (h : Underscored old new) : Underscored old.reverse new.reverse := by
  induction h with
  | nil => exact .nil
  | keep c tail ih => simpa using ih.append (.keep c .nil)
  | hyphen tail ih => simpa using ih.append (.hyphen .nil)

theorem last_of_last (h : Underscored old new) {c : Char} (hc : new.getLast? = some c)
    (hChar : c ≠ '_') : old.getLast? = some c := by
  rw [← List.head?_reverse] at hc ⊢
  exact h.reverse.head_of_head hc hChar

theorem ne_of_blank {c : Char} (hBlank : isBlank c = true) : c ≠ '_' := by
  rintro rfl
  cases hBlank

/-- A blank at the start or at the end stands there in both texts. -/
theorem head_of_blank (h : Underscored old new) {c : Char} (hc : new.head? = some c)
    (hBlank : isBlank c = true) : old.head? = some c :=
  h.head_of_head hc (ne_of_blank hBlank)

theorem last_of_blank (h : Underscored old new) {c : Char} (hc : new.getLast? = some c)
    (hBlank : isBlank c = true) : old.getLast? = some c :=
  h.last_of_last hc (ne_of_blank hBlank)

theorem tight (h : Underscored old new) (hTight : Text.Tight old) : Text.Tight new := by
  have hne := h.ne_nil hTight.ne_nil
  refine ⟨⟨_, List.head?_eq_some_head hne, Bool.eq_false_iff.mpr fun hBlank => ?_⟩,
    ⟨_, List.getLast?_eq_some_getLast hne, Bool.eq_false_iff.mpr fun hBlank => ?_⟩⟩
  · obtain ⟨c, hHead, hc⟩ := hTight.head
    have hSame := h.head_of_blank (List.head?_eq_some_head hne) hBlank
    rw [hHead, Option.some.injEq] at hSame
    rw [← hSame, hc] at hBlank
    cases hBlank
  · obtain ⟨c, hLast, hc⟩ := hTight.last
    have hSame := h.last_of_blank (List.getLast?_eq_some_getLast hne) hBlank
    rw [hLast, Option.some.injEq] at hSame
    rw [← hSame, hc] at hBlank
    cases hBlank

theorem isPrefixOf_of_new (h : Underscored old new) {pattern : Text} (hPattern : '_' ∉ pattern)
    (hNew : pattern.isPrefixOf new = true) : pattern.isPrefixOf old = true := by
  rw [List.isPrefixOf_iff_prefix] at hNew ⊢
  obtain ⟨rest, rfl⟩ := hNew
  obtain ⟨x, y, rfl, hx⟩ := exists_of_parts (x := []) h hPattern
  rw [List.length_eq_zero_iff.mp hx, List.nil_append]
  exact List.prefix_append _ _

/-- A leading part with neither character is the same in both texts. -/
theorem isPrefixOf_eq (h : Underscored old new) {pattern : Text} (hOld : '-' ∉ pattern)
    (hNew : '_' ∉ pattern) : pattern.isPrefixOf new = pattern.isPrefixOf old := by
  induction h generalizing pattern with
  | nil => rfl
  | keep c tail ih =>
      cases pattern with
      | nil => rfl
      | cons x pattern =>
          rw [List.isPrefixOf, List.isPrefixOf, ih (fun hMem => hOld (List.mem_cons_of_mem _ hMem))
            fun hMem => hNew (List.mem_cons_of_mem _ hMem)]
  | hyphen tail ih =>
      cases pattern with
      | nil => rfl
      | cons x pattern =>
          have hx : x ≠ '-' := fun hEq => hOld (hEq ▸ List.mem_cons_self)
          have hx' : x ≠ '_' := fun hEq => hNew (hEq ▸ List.mem_cons_self)
          rw [List.isPrefixOf, List.isPrefixOf, beq_eq_false_iff_ne.mpr hx, beq_eq_false_iff_ne.mpr hx']
          rfl

theorem foldCase (h : Underscored old new) : Underscored old.foldCase new.foldCase := by
  induction h with
  | nil => exact .nil
  | keep c tail ih => exact .keep c.toLower ih
  | hyphen tail ih => exact .hyphen ih

theorem count_eq (h : Underscored old new) {c : Char} (hOld : c ≠ '-') (hNew : c ≠ '_') :
    new.count c = old.count c := by
  induction h with
  | nil => rfl
  | keep d tail ih => rw [List.count_cons, List.count_cons, ih]
  | hyphen tail ih =>
      rw [List.count_cons_of_ne (Ne.symm hOld), List.count_cons_of_ne (Ne.symm hNew), ih]

/-- Where a comment can start in the new text, one can start in the old one, unless the marker has an
underscore. -/
theorem exists_opens (h : Underscored old new) {marker before after : Text} {quoted : Bool}
    (hMarker : '_' ∉ marker) (hNew : new = before ++ after)
    (hOpens : Comment.Opens marker quoted before after) :
    ∃ before' after', old = before' ++ after' ∧ Comment.Opens marker quoted before' after' := by
  obtain ⟨before', after', rfl, hBefore, hAfter⟩ := h.split hNew
  obtain ⟨hPrefix, ⟨c, hHead, hQuote⟩, hQuotes⟩ := hOpens
  refine ⟨before', after', rfl, ?_, ?_, ?_⟩
  · rw [← List.isPrefixOf_iff_prefix] at hPrefix ⊢
    exact hAfter.isPrefixOf_of_new hMarker hPrefix
  · cases hAfter with
    | nil => cases hHead
    | keep d tail => exact ⟨c, hHead, hQuote⟩
    | hyphen tail => exact ⟨'-', rfl, by decide⟩
  · rwa [← hBefore.count_eq (by decide) (by decide)]

/-- Underscores open no comment, unless the marker has one. -/
theorem locate_eq_none (h : Underscored old new) {marker : Text} (hMarker : '_' ∉ marker)
    {quoted : Bool} (hOld : Comment.locate marker quoted old = none) :
    Comment.locate marker quoted new = none := by
  apply Option.eq_none_iff_forall_ne_some.mpr
  intro n hn
  obtain ⟨before, after, hNew, -, hOpens⟩ := Comment.exists_opens_of_locate hn
  obtain ⟨before', after', rfl, hOldOpens⟩ := h.exists_opens hMarker hNew hOpens
  obtain ⟨m, hm, -⟩ := Comment.exists_locate_le hOldOpens
  rw [hOld] at hm
  cases hm

end Underscored

namespace Grammar.Inert

variable {g : Grammar} {old new : Text}

theorem hasOperator_of_underscored (h : g.Inert) (hUnderscored : Underscored old new)
    (hOld : g.hasOperator old = false) : g.hasOperator new = false := by
  rw [hasOperator_eq_false_iff] at hOld ⊢
  rintro o ho ⟨x, y, rfl⟩
  obtain ⟨x', y', rfl, -⟩ := hUnderscored.exists_of_parts (h.operator_underscore o ho)
  exact hOld o ho ⟨x', y', rfl⟩

theorem isDirective_of_underscored (h : g.Inert) (hUnderscored : Underscored old new)
    (hOld : g.isDirective old = false) : g.isDirective new = false :=
  Bool.eq_false_iff.mpr fun hNew =>
    Bool.eq_false_iff.mp hOld (hUnderscored.isPrefixOf_of_new h.directive_underscore hNew)

theorem find?_of_underscored (h : g.Inert) (hUnderscored : Underscored old new)
    (hOld : Comment.find? g.commentMarker old = none) :
    Comment.find? g.commentMarker new = none :=
  hUnderscored.locate_eq_none h.marker_underscore hOld

end Grammar.Inert

namespace EntityName

/-- A repaired name is the name with underscores. -/
theorem underscored_repair (name : Text) : Underscored name (repair name) := by
  have hMap : Underscored name (name.map fun c => if c = '-' then '_' else c) := by
    induction name with
    | nil => exact .nil
    | cons c name ih =>
        by_cases hc : c = '-'
        · subst hc
          exact .hyphen ih
        · rw [List.map_cons, if_neg hc]
          exact .keep c ih
  unfold repair repair?
  split
  · exact hMap
  · exact .refl name

/-- A repaired name has no need of repair. -/
theorem repair?_repair (name : Text) : repair? (repair name) = none := by
  cases hNeeds : needsRepair name with
  | false => simp [repair, repair?, hNeeds]
  | true =>
      have hRepair : repair name = name.map fun c => if c = '-' then '_' else c := by
        simp [repair, repair?, hNeeds]
      have hNone : '-' ∉ repair name := by
        rw [hRepair, List.mem_map]
        rintro ⟨c, -, hc⟩
        split at hc
        · cases hc
        · exact absurd hc ‹_›
      have hDone : needsRepair (repair name) = false := by
        simp [needsRepair, hNone]
      rw [repair?, hDone]
      rfl

theorem repair_repair (name : Text) : repair (repair name) = repair name := by
  rw [repair, repair?_repair, Option.getD_none]

/-- A name that has to be repaired is changed by the repair. -/
theorem repair_eq_self_iff {name : Text} : repair name = name ↔ repair? name = none := by
  refine ⟨fun h => ?_, fun h => by rw [repair, h, Option.getD_none]⟩
  rw [← h]
  exact repair?_repair name

end EntityName

end ErDiagram
