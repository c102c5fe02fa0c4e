import ErDiagram.Grammar.Builder
import ErDiagram.Proofs.Text.Trim

/-!
The operators of a grammar in a text, and what is known of the tokens of a grammar: of every grammar
that can be built, of the grammars of Mermaid with further key modifiers, and of those whose tokens no
repair can bring into a line.
-/

namespace ErDiagram

namespace Text

/-- Of two leading parts of a text the one with fewer bytes has fewer characters. -/
theorem size_le_iff_length_le {t a a' b b' : Text} (ha : t = a ++ a') (hb : t = b ++ b') :
    a.size ≤ b.size ↔ a.length ≤ b.length := by
  constructor
  · intro h
    apply Nat.le_of_not_lt
    intro hLonger
    obtain ⟨rest, rfl⟩ : b <+: a :=
      List.prefix_of_prefix_length_le ⟨b', hb.symm⟩ ⟨a', ha.symm⟩ (Nat.le_of_lt hLonger)
    rw [size_append] at h
    have hRest : rest = [] := size_eq_zero_iff.mp (by omega)
    rw [hRest, List.append_nil] at hLonger
    exact Nat.lt_irrefl _ hLonger
  · intro h
    obtain ⟨rest, rfl⟩ : a <+: b := List.prefix_of_prefix_length_le ⟨a', ha.symm⟩ ⟨b', hb.symm⟩ h
    rw [size_append]
    exact Nat.le_add_right _ _

end Text

namespace Grammar

variable {g : Grammar}

/-- An operator of the grammar between two texts. None stands further left, and none that the grammar
names before it stands at the same place. -/
structure Leftmost (g : Grammar) (before operator after : Text) : Prop where
  order : ∃ front back, g.operators = front ++ operator :: back ∧
    ∀ o ∈ front, ∀ x y, x ++ o ++ y = before ++ operator ++ after → x.length ≠ before.length
  first : ∀ x o y, o ∈ g.operators → x ++ o ++ y = before ++ operator ++ after →
    before.length ≤ x.length

theorem leftmost_eq_none_iff {spans : List Span} : leftmost spans = none ↔ spans = [] := by
  cases spans with
  | nil => simp [leftmost]
  | cons span rest =>
      rw [leftmost]
      split
      next => simp
      next => split <;> simp

theorem mem_of_leftmost {spans : List Span} {span : Span} (h : leftmost spans = some span) :
    span ∈ spans := by
  induction spans generalizing span with
  | nil => cases h
  | cons first rest ih =>
      rw [leftmost] at h
      split at h
      next => exact Option.some.inj h ▸ List.mem_cons_self
      next best hBest =>
        split at h
        next => exact Option.some.inj h ▸ List.mem_cons_of_mem _ (ih hBest)
        next => exact Option.some.inj h ▸ List.mem_cons_self

/-- The spans in front of the chosen one start later than it, and those behind it do not start
earlier. -/
theorem leftmost_eq_some_iff {spans : List Span} {span : Span} :
    leftmost spans = some span ↔ ∃ front back, spans = front ++ span :: back ∧
      (∀ other ∈ front, span.start < other.start) ∧ ∀ other ∈ back, span.start ≤ other.start := by
  constructor
  · intro h
    induction spans generalizing span with
    | nil => cases h
    | cons first rest ih =>
        rw [leftmost] at h
        split at h
        next hNone =>
          obtain rfl := Option.some.inj h
          exact ⟨[], rest, rfl, nofun, by simp [leftmost_eq_none_iff.mp hNone]⟩
        next best hBest =>
          obtain ⟨front, back, rfl, hFront, hBack⟩ := ih hBest
          split at h
          next hLess =>
            obtain rfl := Option.some.inj h
            exact ⟨first :: front, back, rfl, List.forall_mem_cons.mpr ⟨hLess, hFront⟩, hBack⟩
          next hNotLess =>
            obtain rfl := Option.some.inj h
            have hFirst := Nat.le_of_not_lt hNotLess
            refine ⟨[], front ++ best :: back, rfl, nofun, fun other hOther => ?_⟩
            rcases List.mem_append.mp hOther with hIn | hIn
            · exact Nat.le_of_lt (Nat.lt_of_le_of_lt hFirst (hFront other hIn))
            · rcases List.mem_cons.mp hIn with rfl | hLater
              · exact hFirst
              · exact Nat.le_trans hFirst (hBack other hLater)
  · rintro ⟨front, back, rfl, hFront, hBack⟩
    induction front with
    | nil =>
        rw [List.nil_append, leftmost]
        split
        next => rfl
        next best hBest =>
          rw [if_neg (Nat.not_lt_of_le (hBack best (mem_of_leftmost hBest)))]
    | cons first front ih =>
        obtain ⟨hFirst, hRest⟩ := List.forall_mem_cons.mp hFront
        rw [List.cons_append, leftmost, ih hRest]
        exact if_pos hFirst

theorem findOperator?_eq_none_iff {t : Text} :
    g.findOperator? t = none ↔ ∀ o ∈ g.operators, ¬ o <:+: t := by
  rw [findOperator?, leftmost_eq_none_iff, List.filterMap_eq_nil_iff]
  apply forall₂_congr
  intro o _
  rw [occurrence?, Option.map_eq_none_iff, Text.find?_eq_none_iff]

theorem hasOperator_eq_false_iff {t : Text} :
    g.hasOperator t = false ↔ ∀ o ∈ g.operators, ¬ o <:+: t := by
  rw [hasOperator, Option.isSome_eq_false_iff, Option.isNone_iff_eq_none, findOperator?_eq_none_iff]

theorem Leftmost.mem {before operator after : Text} (h : g.Leftmost before operator after) :
    operator ∈ g.operators := by
  obtain ⟨front, back, hOperators, -⟩ := h.order
  rw [hOperators]
  exact List.mem_append_right _ List.mem_cons_self

/-- Where an operator stands in a text, its first occurrence is not further right. -/
theorem exists_occurrence {t o x y : Text} (h : x ++ o ++ y = t) :
    ∃ a b, t = a ++ o ++ b ∧ a.length ≤ x.length ∧
      occurrence? t o = some ⟨a.size, a.size + o.size⟩ := by
  cases hFind : Text.find? o t with
  | none => exact absurd ⟨x, y, h⟩ (Text.find?_eq_none_iff.mp hFind)
  | some n =>
      obtain ⟨a, b, hAt, rfl⟩ := Text.exists_firstAt_of_find? hFind
      exact ⟨a, b, hAt.eq, hAt.first x y h.symm, by rw [occurrence?, hFind]; rfl⟩

theorem exists_of_occurrence? {t o : Text} {span : Span} (h : occurrence? t o = some span) :
    ∃ a b, t = a ++ o ++ b ∧ span = ⟨a.size, a.size + o.size⟩ := by
  obtain ⟨n, hFind, rfl⟩ := Option.map_eq_some_iff.mp h
  obtain ⟨a, b, hAt, rfl⟩ := Text.exists_firstAt_of_find? hFind
  exact ⟨a, b, hAt.eq, rfl⟩

/-- The operator that is found stands in the text with none further left. -/
theorem exists_leftmost {t : Text} {span : Span} (h : g.findOperator? t = some span) :
    ∃ before operator after, t = before ++ operator ++ after ∧
      g.Leftmost before operator after ∧
      span = ⟨before.size, before.size + operator.size⟩ := by
  obtain ⟨spans, spans', hSpans, hFront, hBack⟩ := leftmost_eq_some_iff.mp h
  obtain ⟨front, others, hOperators, rfl, hOthers⟩ := List.filterMap_eq_append_iff.mp hSpans
  obtain ⟨skipped, operator, back, rfl, hSkipped, hSpan, rfl⟩ :=
    List.filterMap_eq_cons_iff.mp hOthers
  obtain ⟨before, after, hText, rfl⟩ := exists_of_occurrence? hSpan
  have hSize {a b o : Text} (hab : t = a ++ o ++ b) :
      before.size ≤ a.size ↔ before.length ≤ a.length :=
    Text.size_le_iff_length_le (hText.trans (List.append_assoc ..))
      (hab.trans (List.append_assoc ..))
  refine ⟨before, operator, after, hText, ⟨⟨front ++ skipped, back, ?_, ?_⟩, ?_⟩, rfl⟩
  · rw [hOperators, List.append_assoc]
  · intro o ho x y hxy hSame
    obtain ⟨a, b, hab, hLength, hOccurs⟩ := exists_occurrence (hxy.trans hText.symm)
    rcases List.mem_append.mp ho with hIn | hIn
    · have hLess := hFront _ (List.mem_filterMap.mpr ⟨o, hIn, hOccurs⟩)
      have hNot := (Text.size_le_iff_length_le (hab.trans (List.append_assoc ..))
        (hText.trans (List.append_assoc ..))).mpr (hSame ▸ hLength)
      exact Nat.not_le_of_lt hLess hNot
    · rw [hSkipped o hIn] at hOccurs
      cases hOccurs
  · intro x o y ho hxy
    obtain ⟨a, b, hab, hLength, hOccurs⟩ := exists_occurrence (hxy.trans hText.symm)
    refine Nat.le_trans ((hSize hab).mp ?_) hLength
    have hMem : (⟨a.size, a.size + o.size⟩ : Span) ∈ g.operators.filterMap (occurrence? t) :=
      List.mem_filterMap.mpr ⟨o, ho, hOccurs⟩
    rw [hSpans, List.mem_append, List.mem_cons] at hMem
    rcases hMem with hIn | hIn | hIn
    · exact Nat.le_of_lt (hFront _ hIn)
    · exact Nat.le_of_eq (congrArg Span.start hIn).symm
    · exact hBack _ hIn

/-- The leftmost operator is found. -/
theorem findOperator?_eq {before operator after : Text} (h : g.Leftmost before operator after) :
    g.findOperator? (before ++ operator ++ after) =
      some ⟨before.size, before.size + operator.size⟩ := by
  obtain ⟨front, back, hOperators, hOrder⟩ := h.order
  have hMem := h.mem
  have hFirst := h.first
  clear h
  generalize hText : before ++ operator ++ after = t at hOrder hFirst
  have hHere : occurrence? t operator = some ⟨before.size, before.size + operator.size⟩ := by
    have hAt : Text.FirstAt operator t before after :=
      ⟨hText.symm, fun x y hxy => hFirst x operator y hMem hxy.symm⟩
    rw [occurrence?, Text.find?_of_firstAt hAt]
    rfl
  have hSize {a b o : Text} (hab : t = a ++ o ++ b) :
      a.size ≤ before.size ↔ a.length ≤ before.length :=
    Text.size_le_iff_length_le (hab.trans (List.append_assoc ..))
      (hText.symm.trans (List.append_assoc ..))
  rw [findOperator?, hOperators, List.filterMap_append, List.filterMap_cons_some hHere,
    leftmost_eq_some_iff]
  refine ⟨_, _, rfl, fun span hSpan => ?_, fun span hSpan => ?_⟩
  · obtain ⟨o, ho, hOccurs⟩ := List.mem_filterMap.mp hSpan
    obtain ⟨a, b, hab, rfl⟩ := exists_of_occurrence? hOccurs
    have hLength := hFirst a o b (hOperators ▸ List.mem_append_left _ ho) hab.symm
    have hDiffers := hOrder o ho a b hab.symm
    refine Nat.lt_of_not_le fun hLess => ?_
    have := (hSize hab).mp hLess
    omega
  · obtain ⟨o, ho, hOccurs⟩ := List.mem_filterMap.mp hSpan
    obtain ⟨a, b, hab, rfl⟩ := exists_of_occurrence? hOccurs
    have hLength := hFirst a o b
      (hOperators ▸ List.mem_append_right _ (List.mem_cons_of_mem _ ho)) hab.symm
    exact (Text.size_le_iff_length_le (hText.symm.trans (List.append_assoc ..))
      (hab.trans (List.append_assoc ..))).mpr hLength

/-- An operator is the leftmost one in another text, too, if every operator that stands there as far
left has a counterpart in this text, and one further left has a counterpart further left. -/
theorem Leftmost.of_stands {before operator after before' after' : Text}
    (h : g.Leftmost before operator after)
    (hStands : ∀ x o y, o ∈ g.operators → x ++ o ++ y = before' ++ operator ++ after' →
      x.length ≤ before'.length → ∃ x₀ y₀, x₀ ++ o ++ y₀ = before ++ operator ++ after ∧
        x₀.length ≤ before.length ∧ (x.length < before'.length → x₀.length < before.length)) :
    g.Leftmost before' operator after' := by
  obtain ⟨front, back, hOperators, hOrder⟩ := h.order
  refine ⟨⟨front, back, hOperators, fun o ho x y hxy hSame => ?_⟩, fun x o y ho hxy => ?_⟩
  · have hMem : o ∈ g.operators := hOperators ▸ List.mem_append_left _ ho
    obtain ⟨x₀, y₀, hEq, hLength, -⟩ := hStands x o y hMem hxy (Nat.le_of_eq hSame)
    exact hOrder o ho x₀ y₀ hEq (Nat.le_antisymm hLength (h.first x₀ o y₀ hMem hEq))
  · refine Nat.le_of_not_lt fun hShort => ?_
    obtain ⟨x₀, y₀, hEq, -, hLess⟩ := hStands x o y ho hxy (Nat.le_of_lt hShort)
    exact Nat.not_le_of_lt (hLess hShort) (h.first x₀ o y₀ ho hEq)

/-- A token that a grammar can be built with: something, and without blanks. -/
structure IsToken (t : Text) : Prop where
  ne_nil : t ≠ []
  hasBlank : t.hasBlank = false

/-- A grammar whose operators, comment marker and directive prefix can be built with. Key modifiers
only tell the parts of an attribute apart. -/
structure WellFormed (g : Grammar) : Prop where
  operator : ∀ o ∈ g.operators, IsToken o
  commentMarker : IsToken g.commentMarker
  directivePrefix : IsToken g.directivePrefix

theorem isDirective_of_append {a b : Text} (h : g.isDirective (a ++ b) = false) :
    g.isDirective a = false := by
  rw [isDirective, Bool.eq_false_iff, ne_eq, List.isPrefixOf_iff_prefix] at h ⊢
  exact fun hPrefix => h (hPrefix.trans (List.prefix_append a b))

/-- A directive prefix has no blank in it, so it does not reach over one. -/
theorem WellFormed.isDirective_append (hg : g.WellFormed) {a b : Text}
    (hBlank : ∃ c, b.head? = some c ∧ isBlank c = true) (h : g.isDirective a = false) :
    g.isDirective (a ++ b) = false := by
  obtain ⟨c, hHead, hc⟩ := hBlank
  obtain ⟨rest, rfl⟩ := List.head?_eq_some_iff.mp hHead
  have hNotIn := Text.not_mem_of_hasBlank hg.directivePrefix.hasBlank hc
  rwa [isDirective, Text.isPrefixOf_append_cons hNotIn]

theorem WellFormed.isDirective_trimEnd (hg : g.WellFormed) (t : Text) :
    g.isDirective t.trimEnd = g.isDirective t :=
  Text.isPrefixOf_trimEnd hg.directivePrefix.hasBlank t

/-- Whether a token that starts no later than an operator can reach the label behind it: in front of a
colon of the token stands an operator. -/
def ReachesLabel (g : Grammar) (token : Text) : Prop :=
  ∃ n < token.length, token[n]? = some ':' ∧ g.hasOperator (token.take n) = true

instance (g : Grammar) (token : Text) : Decidable (g.ReachesLabel token) :=
  inferInstanceAs (Decidable (∃ n < token.length, _))

/-- A grammar none of whose tokens a repair can bring into a line. A repaired name has new underscores,
and a new label stands behind an operator and a colon. A label that would open a comment is left
alone. -/
structure Inert (g : Grammar) : Prop where
  operator_underscore : ∀ o ∈ g.operators, '_' ∉ o
  operator_label : ∀ o ∈ g.operators, ¬ g.ReachesLabel o
  marker_underscore : '_' ∉ g.commentMarker
  directive_underscore : '_' ∉ g.directivePrefix
  directive_label : ¬ g.ReachesLabel g.directivePrefix

instance (g : Grammar) : Decidable g.Inert :=
  decidable_of_iff
    ((∀ o ∈ g.operators, '_' ∉ o) ∧ (∀ o ∈ g.operators, ¬ g.ReachesLabel o) ∧
      '_' ∉ g.commentMarker ∧ '_' ∉ g.directivePrefix ∧ ¬ g.ReachesLabel g.directivePrefix)
    ⟨fun ⟨h₁, h₂, h₃, h₄, h₅⟩ => ⟨h₁, h₂, h₃, h₄, h₅⟩, fun ⟨h₁, h₂, h₃, h₄, h₅⟩ => ⟨h₁, h₂, h₃, h₄, h₅⟩⟩

theorem reachesLabel_of_colon {front : Text} (h : g.hasOperator front = true) (back : Text) :
    g.ReachesLabel (front ++ ':' :: back) :=
  ⟨front.length, by simp, by simp, by simpa using h⟩

/-- A token without a colon does not reach a label. -/
theorem not_reachesLabel {token : Text} (h : ':' ∉ token) : ¬ g.ReachesLabel token := by
  rintro ⟨n, -, hColon, -⟩
  exact h (List.mem_of_getElem? hColon)

/-- The grammars that can be made: the one of Mermaid, and those that are built. -/
def IsBuilt (g : Grammar) : Prop :=
  g = mermaid ∨ ∃ b : GrammarBuilder, b.build = .ok g

/-- A grammar with the operators, the comment marker and the directive prefix of Mermaid. Its key
modifiers are free. -/
structure IsMermaid (g : Grammar) : Prop where
  mem_operators : ∀ o, o ∈ g.operators ↔ o ∈ standardOperators
  commentMarker : g.commentMarker = standardMarker
  directivePrefix : g.directivePrefix = standardPrefix

/-- The grammars of Mermaid with any further key modifiers that can be built. -/
def ExtendsMermaid (g : Grammar) : Prop :=
  g = mermaid ∨ ∃ modifiers : List Text,
    (mermaid.toBuilder.addAll (modifiers.map .keyModifier)).build = .ok g

theorem length_of_mem_standardOperators : ∀ o ∈ standardOperators, o.length = 6 := by
  decide

theorem head_of_mem_standardOperators :
    ∀ o ∈ standardOperators, o.head? = some '|' ∨ o.head? = some '\x7d' := by
  decide

namespace IsMermaid

variable {before operator after : Text}

theorem length_operator (h : g.IsMermaid) {o : Text} (ho : o ∈ g.operators) : o.length = 6 :=
  length_of_mem_standardOperators o ((h.mem_operators o).mp ho)

/-- All operators of Mermaid have the same length, so no two of them stand at one place. -/
theorem leftmost_of_first (h : g.IsMermaid) (hMem : operator ∈ g.operators)
    (hFirst : ∀ x o y, o ∈ g.operators → x ++ o ++ y = before ++ operator ++ after →
      before.length ≤ x.length) : g.Leftmost before operator after := by
  obtain ⟨front, back, hOperators, hNew⟩ := List.eq_append_cons_of_mem hMem
  refine ⟨⟨front, back, hOperators, fun o ho x y hxy hSame => hNew ?_⟩, hFirst⟩
  have hLength : o.length = operator.length := by
    rw [h.length_operator (hOperators ▸ List.mem_append_left _ ho), h.length_operator hMem]
  rw [List.append_assoc, List.append_assoc] at hxy
  exact (List.append_inj (List.append_inj hxy hSame).2 hLength).1 ▸ ho

theorem wellFormed (h : g.IsMermaid) : g.WellFormed where
  operator := fun o ho => by
    have hAll : ∀ o ∈ standardOperators, o ≠ [] ∧ o.hasBlank = false := by decide
    obtain ⟨hne, hBlank⟩ := hAll o ((h.mem_operators o).mp ho)
    exact ⟨hne, hBlank⟩
  commentMarker := h.commentMarker ▸ ⟨by decide, by decide⟩
  directivePrefix := h.directivePrefix ▸ ⟨by decide, by decide⟩

theorem inert (h : g.IsMermaid) : g.Inert where
  operator_underscore := fun o ho => by
    have hAll : ∀ o ∈ standardOperators, '_' ∉ o := by decide
    exact hAll o ((h.mem_operators o).mp ho)
  operator_label := fun o ho => by
    have hAll : ∀ o ∈ standardOperators, ':' ∉ o := by decide
    exact not_reachesLabel (hAll o ((h.mem_operators o).mp ho))
  marker_underscore := by rw [h.commentMarker]; decide
  directive_underscore := by rw [h.directivePrefix]; decide
  directive_label := not_reachesLabel (by rw [h.directivePrefix]; decide)

end IsMermaid

theorem mem_insertOperator {a o : Text} {sorted : List Text} :
    o ∈ GrammarBuilder.insertOperator a sorted ↔ o = a ∨ o ∈ sorted := by
  induction sorted with
  | nil => simp [GrammarBuilder.insertOperator]
  | cons b rest ih =>
      rw [GrammarBuilder.insertOperator]
      split
      · simp
      · rw [List.mem_cons, ih, List.mem_cons, or_left_comm]

theorem mem_sortOperators {o : Text} {operators : List Text} :
    o ∈ GrammarBuilder.sortOperators operators ↔ o ∈ operators := by
  induction operators with
  | nil => rfl
  | cons a rest ih => rw [GrammarBuilder.sortOperators, mem_insertOperator, ih, List.mem_cons]

theorem mem_dropRepeats {o : Text} {operators : List Text} :
    o ∈ GrammarBuilder.dropRepeats operators ↔ o ∈ operators := by
  induction operators with
  | nil => rfl
  | cons a rest ih =>
      cases rest with
      | nil => rfl
      | cons b rest =>
          rw [GrammarBuilder.dropRepeats]
          split
          next hSame => simp [ih, hSame]
          next => simp only [List.mem_cons, ih]

/-- Adding key modifiers changes nothing else in a builder. -/
theorem addAll_keyModifier (b : GrammarBuilder) (modifiers : List Text) :
    b.addAll (modifiers.map .keyModifier) =
      { b with keyModifiers := b.keyModifiers ++ modifiers } := by
  induction modifiers generalizing b with
  | nil => simp [GrammarBuilder.addAll]
  | cons m rest ih =>
      rw [List.map_cons, GrammarBuilder.addAll, List.foldl_cons]
      exact (ih _).trans (by simp [GrammarBuilder.add])

/-- A built grammar has the tokens of its builder. -/
theorem eq_of_build {b : GrammarBuilder} (h : b.build = .ok g) :
    g = {
      operators := GrammarBuilder.dropRepeats (GrammarBuilder.sortOperators b.operators)
      keyModifiers := GrammarBuilder.dropRepeats b.keyModifiers
      commentMarker := b.commentMarker
      directivePrefix := b.directivePrefix } := by
  rw [GrammarBuilder.build] at h
  split at h
  next => cases h
  next => exact (Except.ok.inj h).symm

theorem isMermaid_mermaid : mermaid.IsMermaid :=
  ⟨fun _ => Iff.rfl, rfl, rfl⟩

theorem ExtendsMermaid.isMermaid (h : g.ExtendsMermaid) : g.IsMermaid := by
  rcases h with rfl | ⟨modifiers, hBuild⟩
  · exact isMermaid_mermaid
  · rw [addAll_keyModifier] at hBuild
    obtain rfl := eq_of_build hBuild
    exact ⟨fun o => mem_dropRepeats.trans mem_sortOperators, rfl, rfl⟩

theorem tokenFault?_eq_none_iff {role : TokenRole} {token : Text} :
    GrammarBuilder.tokenFault? role token = none ↔ IsToken token := by
  rw [GrammarBuilder.tokenFault?]
  constructor
  · intro h
    split at h
    next => cases h
    next hne =>
      split at h
      next => cases h
      next hBlank => exact ⟨by simpa using hne, by simpa using hBlank⟩
  · rintro ⟨hne, hBlank⟩
    simp [hne, hBlank]

theorem wellFormed_of_build {b : GrammarBuilder} (h : b.build = .ok g) : g.WellFormed := by
  rw [GrammarBuilder.build] at h
  split at h
  next => cases h
  next hFault =>
    obtain rfl := Except.ok.inj h
    rw [GrammarBuilder.fault?] at hFault
    split at hFault
    next => cases hFault
    next =>
      simp only [Option.or_eq_none_iff, List.findSome?_eq_none_iff,
        tokenFault?_eq_none_iff] at hFault
      obtain ⟨⟨⟨hOperators, -⟩, hMarker⟩, hDirective⟩ := hFault
      exact ⟨fun o ho => hOperators o (mem_sortOperators.mp (mem_dropRepeats.mp ho)), hMarker,
        hDirective⟩

theorem IsBuilt.wellFormed (h : g.IsBuilt) : g.WellFormed := by
  rcases h with rfl | ⟨b, hBuild⟩
  · exact isMermaid_mermaid.wellFormed
  · exact wellFormed_of_build hBuild

/-- The grammar of Mermaid with `NN` as a further key modifier. -/
def withNotNull : Grammar where
  operators := GrammarBuilder.dropRepeats (GrammarBuilder.sortOperators standardOperators)
  keyModifiers := standardModifiers ++ ["NN".toList]
  commentMarker := standardMarker
  directivePrefix := standardPrefix

theorem extendsMermaid_withNotNull : withNotNull.ExtendsMermaid :=
  Or.inr ⟨["NN".toList], rfl⟩

end Grammar

end ErDiagram
