import ErDiagram.Proofs.Grammar
import ErDiagram.Proofs.Text.Span

/-!
The order of the operators of a grammar, and what it is for. A built grammar names longer operators
first, and the operators of Mermaid all have the same size. So the operator that is found is the longest
one at its place, although the search only asks for the leftmost one.
-/

namespace ErDiagram

theorem Text.bytes_injective {a b : Text} (h : a.bytes = b.bytes) : a = b := by
  have hBytes : (String.ofList a).toByteArray = (String.ofList b).toByteArray := by
    rw [String.toByteArray_ofList, String.toByteArray_ofList]
    exact congrArg List.toByteArray h
  exact String.ofList_injective (String.toByteArray_inj.mp hBytes)

namespace GrammarBuilder

/-- An operator that stands in front of another one in a built grammar: it has more bytes, or as many
and they come first in lexicographic order. -/
def StandsBefore (a b : Text) : Prop :=
  b.size < a.size ∨ (a.size = b.size ∧ a.bytes < b.bytes)

theorem StandsBefore.trans {a b c : Text} (hab : StandsBefore a b) (hbc : StandsBefore b c) :
    StandsBefore a c := by
  rcases hab with hab | ⟨hab, hBytes⟩
  · rcases hbc with hbc | ⟨hbc, -⟩
    · exact Or.inl (Nat.lt_trans hbc hab)
    · exact Or.inl (hbc ▸ hab)
  · rcases hbc with hbc | ⟨hbc, hBytes'⟩
    · exact Or.inl (hab ▸ hbc)
    · exact Or.inr ⟨hab.trans hbc, List.lt_trans hBytes hBytes'⟩

theorem StandsBefore.ne {a b : Text} (h : StandsBefore a b) : a ≠ b := by
  rintro rfl
  rcases h with h | ⟨-, h⟩
  · exact Nat.lt_irrefl _ h
  · exact List.lt_irrefl _ h

instance : Std.Irrefl StandsBefore := ⟨fun _ h => h.ne rfl⟩

instance : Std.Antisymm StandsBefore := ⟨fun _ _ hab hba => absurd rfl (hab.trans hba).ne⟩

theorem StandsBefore.size_le {a b : Text} (h : StandsBefore a b) : b.size ≤ a.size := by
  rcases h with h | ⟨h, -⟩
  · exact Nat.le_of_lt h
  · exact Nat.le_of_eq h.symm

/-- Of two different operators the one that can stand in front does. -/
theorem precedes_iff {a b : Text} : precedes a b = true ↔ StandsBefore a b ∨ a = b := by
  rw [precedes, Bool.or_eq_true, Bool.and_eq_true, decide_eq_true_eq, beq_iff_eq, decide_eq_true_eq,
    List.le_iff_lt_or_eq]
  constructor
  · rintro (h | ⟨hSize, hBytes | hBytes⟩)
    · exact Or.inl (Or.inl h)
    · exact Or.inl (Or.inr ⟨hSize, hBytes⟩)
    · exact Or.inr (Text.bytes_injective hBytes)
  · rintro ((h | ⟨hSize, hBytes⟩) | rfl)
    · exact Or.inl h
    · exact Or.inr ⟨hSize, Or.inl hBytes⟩
    · exact Or.inr ⟨rfl, Or.inr rfl⟩

theorem standsBefore_of_not_precedes {a b : Text} (h : ¬ precedes a b = true) : StandsBefore b a := by
  rw [precedes, Bool.or_eq_true, Bool.and_eq_true, decide_eq_true_eq, beq_iff_eq, decide_eq_true_eq,
    not_or, not_and, Nat.not_lt] at h
  obtain ⟨hSize, hBytes⟩ := h
  rcases Nat.lt_or_eq_of_le hSize with hLess | hSame
  · exact Or.inl hLess
  · exact Or.inr ⟨hSame.symm, List.not_le.mp (hBytes hSame)⟩

theorem precedes_trans {a b c : Text} (hab : precedes a b = true) (hbc : precedes b c = true) :
    precedes a c = true := by
  rw [precedes_iff] at hab hbc ⊢
  rcases hab with hab | rfl
  · rcases hbc with hbc | rfl
    · exact Or.inl (hab.trans hbc)
    · exact Or.inl hab
  · exact hbc

theorem pairwise_insertOperator {a : Text} {sorted : List Text} (h : sorted.Pairwise (precedes · ·)) :
    (insertOperator a sorted).Pairwise (precedes · ·) := by
  induction sorted with
  | nil => exact List.pairwise_singleton _ a
  | cons b rest ih =>
      obtain ⟨hFirst, hRest⟩ := List.pairwise_cons.mp h
      rw [insertOperator]
      split
      next hab =>
        exact .cons (List.forall_mem_cons.mpr ⟨hab, fun o ho => precedes_trans hab (hFirst o ho)⟩) h
      next hba =>
        refine .cons (fun o ho => ?_) (ih hRest)
        rcases Grammar.mem_insertOperator.mp ho with rfl | hIn
        · exact precedes_iff.mpr (Or.inl (standsBefore_of_not_precedes hba))
        · exact hFirst o hIn

theorem pairwise_sortOperators (operators : List Text) :
    (sortOperators operators).Pairwise (precedes · ·) := by
  induction operators with
  | nil => exact .nil
  | cons a rest ih => exact pairwise_insertOperator ih

/-- In an ordered list equal operators stand next to each other, so none is left twice. -/
theorem pairwise_dropRepeats {sorted : List Text} (h : sorted.Pairwise (precedes · ·)) :
    (dropRepeats sorted).Pairwise StandsBefore := by
  induction sorted with
  | nil => exact .nil
  | cons a rest ih =>
      cases rest with
      | nil => exact List.pairwise_singleton _ a
      | cons b rest =>
          obtain ⟨hFirst, hRest⟩ := List.pairwise_cons.mp h
          rw [dropRepeats]
          split
          next => exact ih hRest
          next hne =>
            have hab : StandsBefore a b :=
              (precedes_iff.mp (hFirst b List.mem_cons_self)).resolve_right hne
            refine .cons (fun o ho => ?_) (ih hRest)
            rcases List.mem_cons.mp (Grammar.mem_dropRepeats.mp ho) with rfl | hIn
            · exact hab
            · rcases precedes_iff.mp ((List.pairwise_cons.mp hRest).1 o hIn) with hbo | rfl
              · exact hab.trans hbo
              · exact hab

theorem pairwise_of_build {b : GrammarBuilder} {g : Grammar} (h : b.build = .ok g) :
    g.operators.Pairwise StandsBefore := by
  rw [Grammar.eq_of_build h]
  exact pairwise_dropRepeats (pairwise_sortOperators b.operators)

end GrammarBuilder

namespace Grammar

variable {g : Grammar} {t : Text} {span : Span}

/-- An operator at a span of a text. None stands further left, and none that stands at the same place is
longer. -/
structure LongestAt (g : Grammar) (t : Text) (span : Span) : Prop where
  within : span.Within t
  operator : t.slice span ∈ g.operators
  leftmost : ∀ x o y, o ∈ g.operators → x ++ o ++ y = t → span.start ≤ x.size
  longest : ∀ x o y, o ∈ g.operators → x ++ o ++ y = t → x.size = span.start →
    o.size ≤ (t.slice span).size

/-- The order of the operators does not bear on it. -/
theorem LongestAt.of_mem_iff {g' : Grammar} (hMem : ∀ o, o ∈ g.operators ↔ o ∈ g'.operators)
    (h : g.LongestAt t span) : g'.LongestAt t span where
  within := h.within
  operator := (hMem _).mp h.operator
  leftmost := fun x o y ho => h.leftmost x o y ((hMem o).mpr ho)
  longest := fun x o y ho => h.longest x o y ((hMem o).mpr ho)

/-- At most one span holds such an operator. -/
theorem LongestAt.unique {span' : Span} (h : g.LongestAt t span) (h' : g.LongestAt t span') :
    span = span' := by
  obtain ⟨a, c, hText, hSpan⟩ := h.within.exists_parts
  obtain ⟨a', c', hText', hSpan'⟩ := h'.within.exists_parts
  have hStart : span.start = a.size := congrArg Span.start hSpan
  have hStart' : span'.start = a'.size := congrArg Span.start hSpan'
  have hSame : a.size = a'.size := by
    have := h.leftmost _ _ _ h'.operator hText'.symm
    have := h'.leftmost _ _ _ h.operator hText.symm
    omega
  have hSize : (t.slice span).size = (t.slice span').size := by
    have := h.longest _ _ _ h'.operator hText'.symm (by omega)
    have := h'.longest _ _ _ h.operator hText.symm (by omega)
    omega
  rw [hSpan, hSpan', hSame, hSize]

/-- No operator of a grammar that can be made is shorter than one behind it. -/
theorem IsBuilt.pairwise_size_le (hg : g.IsBuilt) :
    g.operators.Pairwise fun a b => b.size ≤ a.size := by
  rcases hg with rfl | ⟨b, hBuild⟩
  · decide +kernel
  · exact (GrammarBuilder.pairwise_of_build hBuild).imp fun h => h.size_le

theorem IsBuilt.longestAt (hg : g.IsBuilt) (h : g.findOperator? t = some span) :
    g.LongestAt t span := by
  obtain ⟨before, operator, after, hText, hLeftmost, rfl⟩ := exists_leftmost h
  have hSlice : t.slice ⟨before.size, before.size + operator.size⟩ = operator :=
    Text.slice_of_eq hText rfl rfl
  refine {
    within := Span.within_of_eq hText (hg.wellFormed.operator _ hLeftmost.mem).ne_nil rfl rfl
    operator := hSlice.symm ▸ hLeftmost.mem
    leftmost := fun x o y ho hxy => ?_
    longest := fun x o y ho hxy hStart => ?_ }
  · have hLength := hLeftmost.first x o y ho (hxy.trans hText)
    exact (Text.size_le_iff_length_le (hText.trans (List.append_assoc ..))
      (hxy.symm.trans (List.append_assoc ..))).mpr hLength
  · obtain rfl : x = before :=
      Text.eq_of_size_eq (hxy.symm.trans (List.append_assoc ..))
        (hText.trans (List.append_assoc ..)) hStart
    obtain ⟨front, back, hOperators, hFront⟩ := hLeftmost.order
    have hSizes := hg.pairwise_size_le
    rw [hOperators, List.pairwise_append, List.pairwise_cons] at hSizes
    rw [hSlice]
    -- The search takes the grammar's first operator at a place, and no longer one comes later.
    rw [hOperators, List.mem_append, List.mem_cons] at ho
    rcases ho with hIn | rfl | hIn
    · exact absurd rfl (hFront o hIn x y (hxy.trans hText))
    · exact Nat.le_refl _
    · exact hSizes.2.1.1 o hIn

theorem IsBuilt.findOperator?_eq_some_iff (hg : g.IsBuilt) :
    g.findOperator? t = some span ↔ g.LongestAt t span := by
  refine ⟨hg.longestAt, fun h => ?_⟩
  cases hFind : g.findOperator? t with
  | none =>
      obtain ⟨a, c, hText, -⟩ := h.within.exists_parts
      exact absurd ⟨a, c, hText.symm⟩ (findOperator?_eq_none_iff.mp hFind _ h.operator)
  | some other => rw [(hg.longestAt hFind).unique h]

/-- The search for an operator gives nothing exactly for a text that no operator stands in. Otherwise it
gives the leftmost place of an operator, and the longest operator there. -/
theorem findOperator?_leftmost_longest (hg : g.IsBuilt) (t : Text) :
    (g.findOperator? t = none ↔ ∀ o ∈ g.operators, ¬ o <:+: t) ∧
      ∀ span, g.findOperator? t = some span ↔ g.LongestAt t span :=
  ⟨findOperator?_eq_none_iff, fun _ => hg.findOperator?_eq_some_iff⟩

/-- The shorter operator was added first and stands in the text twice. -/
theorem findOperator?_leftmost_longest_nested :
    let g : Grammar := { mermaid with operators := ["-->".toList, "--".toList], keyModifiers := [] }
    g.IsBuilt ∧ g.findOperator? "é --> B -- C".toList = some ⟨3, 6⟩ ∧
      g.LongestAt "é --> B -- C".toList ⟨3, 6⟩ ∧ ∀ o ∈ g.operators, ¬ o <:+: "é - B".toList := by
  intro g
  have hg : g.IsBuilt :=
    Or.inr ⟨GrammarBuilder.empty.addAll [.operator "--".toList, .operator "-->".toList], rfl⟩
  have hFind : g.findOperator? "é --> B -- C".toList = some ⟨3, 6⟩ := by decide
  exact ⟨hg, hFind, ((findOperator?_leftmost_longest hg _).2 _).mp hFind,
    (findOperator?_leftmost_longest hg _).1.mp (by decide)⟩

end Grammar

end ErDiagram
