import ErDiagram.Text.Search

/-!
Cutting texts that are written as parts one behind the other, and the places where one text stands
in another. Every position here lies between two parts, so no character is ever cut.
-/

namespace ErDiagram.Text

@[simp] theorem dropBytes_zero (t : Text) : dropBytes t 0 = t := by
  simpa using dropBytes_size_append [] t

/-- A cut behind a leading part, however its position is written. -/
theorem takeBytes_of_eq {t a b : Text} {n : Nat} (h : t = a ++ b) (hn : n = size a) :
    takeBytes t n = a := by
  subst h hn
  exact takeBytes_size_append a b

theorem dropBytes_of_eq {t a b : Text} {n : Nat} (h : t = a ++ b) (hn : n = size a) :
    dropBytes t n = b := by
  subst h hn
  exact dropBytes_size_append a b

/-- A leading part of a text is told by its number of bytes. -/
theorem eq_of_size_eq {t a a' b b' : Text} (ha : t = a ++ a') (hb : t = b ++ b')
    (h : size a = size b) : a = b :=
  (takeBytes_of_eq ha rfl).symm.trans (takeBytes_of_eq hb h)

/-- The middle of three parts stands at the span between the other two. -/
theorem slice_of_eq {t a b c : Text} {n m : Nat} (h : t = a ++ b ++ c) (hn : n = size a)
    (hm : m = size a + size b) : slice t ⟨n, m⟩ = b := by
  subst h hn hm
  exact slice_append a b c

/-- A text that stands in two parts stands in one of them, if they meet at a character that it does
not have. -/
theorem of_append_eq_append {x pattern y u v : Text} (h : x ++ pattern ++ y = u ++ v)
    (hMeet : v = [] ∨ (∃ c, v.head? = some c ∧ c ∉ pattern) ∨
      ∃ c, u.getLast? = some c ∧ c ∉ pattern) :
    (∃ z, u = x ++ pattern ++ z ∧ y = z ++ v) ∨ ∃ z, x = u ++ z ∧ v = z ++ pattern ++ y := by
  rcases List.append_eq_append_iff.mp h with ⟨z, hu, hy⟩ | ⟨z, hxp, hv⟩
  · exact Or.inl ⟨z, hu, hy⟩
  · rcases List.append_eq_append_iff.mp hxp with ⟨w, hu, hp⟩ | ⟨w, hx, hz⟩
    · -- The pattern is `w` at the end of `u` and `z` at the start of `v`.
      rcases List.eq_nil_or_concat w with rfl | ⟨w, d, rfl⟩
      · exact Or.inr ⟨[], by simpa using hu.symm, by rw [hv, hp]; simp⟩
      · cases z with
        | nil => exact Or.inl ⟨[], by simpa using hxp.symm, by simpa using hv.symm⟩
        | cons c z =>
            rcases hMeet with hNil | ⟨e, he, hNot⟩ | ⟨e, he, hNot⟩
            · rw [hNil] at hv
              cases hv
            · rw [hv, List.cons_append, List.head?_cons, Option.some.injEq] at he
              exact absurd (by rw [hp, ← he]; simp) hNot
            · rw [hu, List.concat_eq_append, ← List.append_assoc, List.getLast?_concat,
                Option.some.injEq] at he
              exact absurd (by rw [hp, ← he]; simp) hNot
    · exact Or.inr ⟨w, hx, by rw [hv, hz]⟩

/-- A character of two parts stands in one of them. -/
theorem split_append_cons {u v a b : Text} {c : Char} (h : u ++ v = a ++ c :: b) :
    (∃ z, u = a ++ c :: z ∧ b = z ++ v) ∨ ∃ z, a = u ++ z ∧ v = z ++ c :: b := by
  rcases List.append_eq_append_iff.mp h with ⟨z, ha, hv⟩ | ⟨z, hu, hcb⟩
  · exact Or.inr ⟨z, ha, hv⟩
  · cases z with
    | nil => exact Or.inr ⟨[], by simpa using hu.symm, by simpa using hcb.symm⟩
    | cons d z =>
        obtain ⟨rfl, hb⟩ := List.cons.inj hcb
        exact Or.inl ⟨z, hu, hb⟩

/-- A leading part of a text does not reach over a character that it does not have. -/
theorem prefix_of_prefix_append {pattern a b : Text} {c : Char} (hc : c ∉ pattern)
    (h : pattern <+: a ++ c :: b) : pattern <+: a := by
  obtain ⟨rest, hRest⟩ := h
  rcases List.append_eq_append_iff.mp hRest with ⟨z, rfl, -⟩ | ⟨z, rfl, hb⟩
  · exact List.prefix_append pattern z
  · cases z with
    | nil => simp
    | cons d z =>
        obtain ⟨rfl, -⟩ := List.cons.inj hb
        exact absurd (by simp) hc

theorem isPrefixOf_append_cons {pattern : Text} {c : Char} (hc : c ∉ pattern) (a b : Text) :
    pattern.isPrefixOf (a ++ c :: b) = pattern.isPrefixOf a := by
  rw [Bool.eq_iff_iff, List.isPrefixOf_iff_prefix, List.isPrefixOf_iff_prefix]
  exact ⟨prefix_of_prefix_append hc, fun h => h.trans (List.prefix_append a (c :: b))⟩

/-- A text that starts in front of a character ends in front of it or has it. -/
theorem fits_or_reaches {x pattern y u v : Text} {c : Char} (h : x ++ pattern ++ y = u ++ c :: v)
    (hStart : x.length ≤ u.length) :
    ∃ w, u = x ++ w ∧ ((∃ z, w = pattern ++ z) ∨ ∃ z, pattern = w ++ c :: z) := by
  rw [List.append_assoc] at h
  obtain ⟨w, rfl⟩ : x <+: u :=
    List.prefix_of_prefix_length_le ⟨_, h⟩ (List.prefix_append _ _) hStart
  refine ⟨w, rfl, ?_⟩
  rw [List.append_assoc, List.append_cancel_left_eq] at h
  rcases List.append_eq_append_iff.mp h with ⟨z, hw, -⟩ | ⟨z, hPattern, hBehind⟩
  · exact Or.inl ⟨z, hw⟩
  · cases z with
    | nil => exact Or.inl ⟨[], by simpa using hPattern.symm⟩
    | cons d z =>
        obtain rfl := (List.cons.inj hBehind).1
        exact Or.inr ⟨z, hPattern⟩

/-- Where one text stands in another: the text in front of it and the text behind it. `first` says
that it stands nowhere further left. -/
structure FirstAt (pattern t before after : Text) : Prop where
  eq : t = before ++ pattern ++ after
  first : ∀ x y, t = x ++ pattern ++ y → before.length ≤ x.length

theorem find?_eq_none_iff {pattern t : Text} : find? pattern t = none ↔ ¬ pattern <:+: t := by
  induction t with
  | nil => cases pattern <;> simp [find?]
  | cons c t ih =>
      rw [find?, List.infix_cons_iff]
      by_cases h : pattern.isPrefixOf (c :: t)
      · simp [h, List.isPrefixOf_iff_prefix.mp h]
      · rw [if_neg h, Option.map_eq_none_iff, ih]
        rw [List.isPrefixOf_iff_prefix] at h
        simp [h]

/-- A position that was found is the leftmost one. -/
theorem exists_firstAt_of_find? {pattern t : Text} {n : Nat} (h : find? pattern t = some n) :
    ∃ before after, FirstAt pattern t before after ∧ n = size before := by
  induction t generalizing n with
  | nil =>
      cases pattern with
      | nil =>
          obtain rfl : 0 = n := by simpa [find?] using h
          exact ⟨[], [], ⟨rfl, fun _ _ _ => Nat.zero_le _⟩, rfl⟩
      | cons c pattern => simp [find?] at h
  | cons c t ih =>
      rw [find?] at h
      by_cases hPrefix : pattern.isPrefixOf (c :: t)
      · obtain rfl : 0 = n := by simpa [hPrefix] using h
        obtain ⟨after, hAfter⟩ := List.isPrefixOf_iff_prefix.mp hPrefix
        exact ⟨[], after, ⟨by simpa using hAfter.symm, fun _ _ _ => Nat.zero_le _⟩, rfl⟩
      · rw [if_neg hPrefix, Option.map_eq_some_iff] at h
        obtain ⟨k, hk, rfl⟩ := h
        obtain ⟨before, after, hAt, rfl⟩ := ih hk
        refine ⟨c :: before, after, ⟨by simp [hAt.eq], fun x y hxy => ?_⟩, rfl⟩
        cases x with
        | nil => exact absurd (List.isPrefixOf_iff_prefix.mpr ⟨y, hxy.symm⟩) hPrefix
        | cons d x =>
            have := hAt.first x y (by simpa using (List.cons.inj hxy).2)
            simpa using this

/-- The leftmost position is found. -/
theorem find?_of_firstAt {pattern t before after : Text} (h : FirstAt pattern t before after) :
    find? pattern t = some (size before) := by
  cases hFind : find? pattern t with
  | none => exact absurd ⟨before, after, h.eq.symm⟩ (find?_eq_none_iff.mp hFind)
  | some n =>
      obtain ⟨before', after', hAt, rfl⟩ := exists_firstAt_of_find? hFind
      have hLength : before'.length = before.length :=
        Nat.le_antisymm (hAt.first _ _ h.eq) (h.first _ _ hAt.eq)
      have hEq := hAt.eq.symm.trans h.eq
      rw [List.append_assoc, List.append_assoc] at hEq
      rw [(List.append_inj hEq hLength).1]

/-- A single character is found behind the longest part without it. -/
theorem find?_singleton (c : Char) (before after : Text) (h : c ∉ before) :
    find? [c] (before ++ c :: after) = some (size before) := by
  have hAt : FirstAt [c] (before ++ c :: after) before after := by
    refine ⟨by simp, fun x y hxy => Nat.le_of_not_lt fun hShort => ?_⟩
    have hPrefix : x ++ [c] <+: before :=
      List.prefix_of_prefix_length_le ⟨y, hxy.symm⟩ (List.prefix_append _ _)
        (by rw [List.length_append]; exact hShort)
    exact h (hPrefix.subset (by simp))
  exact find?_of_firstAt hAt

theorem find?_singleton_eq_none (c : Char) (t : Text) : find? [c] t = none ↔ c ∉ t := by
  rw [find?_eq_none_iff, List.mem_iff_append]
  simp only [List.IsInfix, List.append_assoc, List.singleton_append, eq_comm]

end ErDiagram.Text
