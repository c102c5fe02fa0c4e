import ErDiagram.Proofs.Grammar.Order
import Mathlib.Data.List.Sort

/-!
The tokens of a builder. It builds a grammar exactly if all of them are fit for one, which depends neither
on the order of the steps nor on a token that was added twice. A built grammar holds the tokens of its
builder, and as a builder it builds itself.
-/

namespace ErDiagram

namespace GrammarBuilder

/-- What a key modifier has to be besides a token: modifiers stand in lists between commas. -/
structure IsModifier (token : Text) : Prop extends Grammar.IsToken token where
  no_comma : ',' ∉ token

/-- The tokens of a builder are all fit for a grammar, and there is an operator among them. -/
structure Valid (b : GrammarBuilder) : Prop where
  ne_nil : b.operators ≠ []
  operator : ∀ o ∈ b.operators, Grammar.IsToken o
  keyModifier : ∀ m ∈ b.keyModifiers, IsModifier m
  commentMarker : Grammar.IsToken b.commentMarker
  directivePrefix : Grammar.IsToken b.directivePrefix

/-- Two builders with the same tokens. How often a token was added, and when, may differ. -/
structure SameTokens (b b' : GrammarBuilder) : Prop where
  operator : ∀ o, o ∈ b.operators ↔ o ∈ b'.operators
  keyModifier : ∀ m, m ∈ b.keyModifiers ↔ m ∈ b'.keyModifiers
  commentMarker : b.commentMarker = b'.commentMarker
  directivePrefix : b.directivePrefix = b'.directivePrefix

variable {b b' : GrammarBuilder} {g g' : Grammar}

theorem SameTokens.symm (h : b.SameTokens b') : b'.SameTokens b where
  operator := fun o => (h.operator o).symm
  keyModifier := fun m => (h.keyModifier m).symm
  commentMarker := h.commentMarker.symm
  directivePrefix := h.directivePrefix.symm

theorem SameTokens.trans {b'' : GrammarBuilder} (h : b.SameTokens b') (h' : b'.SameTokens b'') :
    b.SameTokens b'' where
  operator := fun o => (h.operator o).trans (h'.operator o)
  keyModifier := fun m => (h.keyModifier m).trans (h'.keyModifier m)
  commentMarker := h.commentMarker.trans h'.commentMarker
  directivePrefix := h.directivePrefix.trans h'.directivePrefix

theorem SameTokens.valid (h : b.SameTokens b') (hValid : b.Valid) : b'.Valid where
  ne_nil := by
    obtain ⟨o, ho⟩ := List.exists_mem_of_ne_nil _ hValid.ne_nil
    exact List.ne_nil_of_mem ((h.operator o).mp ho)
  operator := fun o ho => hValid.operator o ((h.operator o).mpr ho)
  keyModifier := fun m hm => hValid.keyModifier m ((h.keyModifier m).mpr hm)
  commentMarker := h.commentMarker ▸ hValid.commentMarker
  directivePrefix := h.directivePrefix ▸ hValid.directivePrefix

theorem modifierFault?_eq_none_iff {token : Text} : modifierFault? token = none ↔ IsModifier token := by
  rw [modifierFault?]
  cases hFault : tokenFault? .keyModifier token with
  | some fault =>
      refine iff_of_false nofun fun h => ?_
      rw [Grammar.tokenFault?_eq_none_iff.mpr h.toIsToken] at hFault
      cases hFault
  | none =>
      have hToken : Grammar.IsToken token := Grammar.tokenFault?_eq_none_iff.mp hFault
      by_cases hComma : ',' ∈ token
      · exact iff_of_false (by simp [hComma]) fun h => h.no_comma hComma
      · exact iff_of_true (by simp [hComma]) ⟨hToken, hComma⟩

theorem fault?_eq_none_iff : b.fault? = none ↔ b.Valid := by
  rw [fault?]
  split
  next hEmpty =>
    refine iff_of_false (Option.some_ne_none _) fun h => ?_
    exact h.ne_nil (List.isEmpty_iff.mp hEmpty)
  next hSome =>
    simp only [Option.or_eq_none_iff, List.findSome?_eq_none_iff, Grammar.tokenFault?_eq_none_iff,
      modifierFault?_eq_none_iff]
    constructor
    · rintro ⟨⟨⟨hOperators, hModifiers⟩, hMarker⟩, hDirective⟩
      have hNe : b.operators ≠ [] := fun hNil => hSome (List.isEmpty_iff.mpr hNil)
      exact ⟨hNe, hOperators, hModifiers, hMarker, hDirective⟩
    · intro h
      exact ⟨⟨⟨h.operator, h.keyModifier⟩, h.commentMarker⟩, h.directivePrefix⟩

theorem build_isOk_iff : (∃ g, b.build = .ok g) ↔ b.Valid := by
  rw [← fault?_eq_none_iff, build]
  cases b.fault? with
  | some fault => simp
  | none => simp

/-- A built grammar holds the tokens of its builder. -/
theorem sameTokens_of_build (h : b.build = .ok g) : g.toBuilder.SameTokens b := by
  rw [Grammar.eq_of_build h]
  exact ⟨fun _ => Grammar.mem_dropRepeats.trans Grammar.mem_sortOperators,
    fun _ => Grammar.mem_dropRepeats, rfl, rfl⟩

theorem exists_dropRepeats_cons (a : Text) (rest : List Text) :
    ∃ more, dropRepeats (a :: rest) = a :: more := by
  induction rest generalizing a with
  | nil => exact ⟨[], rfl⟩
  | cons b rest ih =>
      rw [dropRepeats]
      split
      next hSame => exact hSame ▸ ih b
      next => exact ⟨_, rfl⟩

theorem dropRepeats_dropRepeats (tokens : List Text) :
    dropRepeats (dropRepeats tokens) = dropRepeats tokens := by
  induction tokens with
  | nil => rfl
  | cons a rest ih =>
      cases rest with
      | nil => rfl
      | cons b rest =>
          rw [dropRepeats]
          split
          next => exact ih
          next hne =>
            obtain ⟨more, hMore⟩ := exists_dropRepeats_cons b rest
            rw [hMore] at ih ⊢
            rw [dropRepeats, if_neg hne, ih]

/-- Building a built grammar once more gives the same grammar. -/
theorem build_toBuilder (h : b.build = .ok g) : g.toBuilder.build = .ok g := by
  have hValid : g.toBuilder.Valid := (sameTokens_of_build h).symm.valid (build_isOk_iff.mp ⟨g, h⟩)
  have hOperators : dropRepeats (sortOperators g.operators) = g.operators :=
    (pairwise_dropRepeats (pairwise_sortOperators g.operators)).eq_of_mem_iff (pairwise_of_build h)
      fun _ => Grammar.mem_dropRepeats.trans Grammar.mem_sortOperators
  have hModifiers : dropRepeats g.keyModifiers = g.keyModifiers := by
    rw [Grammar.eq_of_build h]
    exact dropRepeats_dropRepeats b.keyModifiers
  rw [build, fault?_eq_none_iff.mpr hValid]
  simp only [Grammar.toBuilder, hOperators, hModifiers]
  rfl

end GrammarBuilder

end ErDiagram
