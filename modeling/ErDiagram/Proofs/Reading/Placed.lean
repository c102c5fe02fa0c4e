import ErDiagram.Proofs.Reading.Attribute
import ErDiagram.Proofs.Reading.Checked

/-!
Where the parts of a line stand. Every span that a reading names covers something of the code and cuts
no character of it, and the parts of a line keep their order and have nothing in common.
-/

namespace ErDiagram

/-- The parts of a relationship stand in order, the names and the label without blanks around them. -/
structure RelationshipParts.Placed (g : Grammar) (code : Text) (parts : RelationshipParts) :
    Prop where
  left : parts.left.Within code
  operator : parts.operator.Within code
  right : parts.right.Within code
  label : ∀ label, parts.label? = some label → label.Within code
  left_operator : parts.left.Before parts.operator
  operator_right : parts.operator.Before parts.right
  right_label : ∀ label, parts.label? = some label → parts.right.Before label
  left_trim : (code.slice parts.left).trim = code.slice parts.left
  right_trim : (code.slice parts.right).trim = code.slice parts.right
  label_trim : ∀ label, parts.label? = some label → (code.slice label).trim = code.slice label
  mem_operators : code.slice parts.operator ∈ g.operators

namespace AttributeParts

/-- The type and the pieces of the name. -/
def leading (parts : AttributeParts) : List Span :=
  parts.dataType?.toList ++ parts.name

/-- The key modifiers and the remark. A modifier can stand behind the remark. -/
def trailing (parts : AttributeParts) : List Span :=
  parts.modifiers ++ parts.remark?.toList

/-- The type and the pieces of the name stand in order in front of everything else. -/
structure Placed (code : Text) (parts : AttributeParts) : Prop where
  within : ∀ span ∈ parts.leading ++ parts.trailing, span.Within code
  leading : parts.leading.Pairwise Span.Before
  leading_trailing : ∀ a ∈ parts.leading, ∀ b ∈ parts.trailing, a.Before b
  trailing : parts.trailing.Pairwise Span.Apart

end AttributeParts

/-- The spans of a kind stand in the code of a line as they should. -/
def LineKind.Placed (g : Grammar) (code : Text) : LineKind → Prop
  | .entityHeader name => name.Within code
  | .entityAttribute parts => parts.Placed code
  | .relationship parts => parts.Placed g code
  | .entityFooter => True
  | .directive => True
  | .other => True

variable {g : Grammar} {code : Text}

theorem RelationshipLayout.Valid.placed (hg : g.WellFormed) {s : RelationshipLayout}
    (h : s.Valid g) : s.parts.Placed g s.text := by
  -- The label, where there is one, is the last part but the blanks behind it.
  have hLabel {span : Span} (hSpan : s.parts.label? = some span) :
      ∃ label, s.label? = some label ∧ Text.Tight label ∧
        span = ⟨s.beforeLabel.size, s.beforeLabel.size + label.size⟩ := by
    obtain ⟨label, hSome, rfl⟩ := Option.map_eq_some_iff.mp hSpan
    have hPlace := hSome ▸ h.place
    exact ⟨label, hSome, hPlace.tight, rfl⟩
  refine {
    left := Span.within_of_eq (s.text_eq.trans (List.append_assoc ..).symm) h.left.ne_nil rfl rfl
    operator := Span.within_of_eq s.text_eq_operator (hg.operator _ h.operator.mem).ne_nil rfl rfl
    right := Span.within_of_eq (c := s.bridge ++ s.fromLabel) (by simp [text, beforeLabel])
      h.right.ne_nil rfl rfl
    label := fun span hSpan => ?_
    left_operator := ?_
    operator_right := ?_
    right_label := fun span hSpan => ?_
    left_trim := by rw [s.slice_left, h.left.trim_eq]
    right_trim := by rw [s.slice_right, h.right.trim_eq]
    label_trim := fun span hSpan => ?_
    mem_operators := s.slice_operator ▸ h.operator.mem }
  · obtain ⟨label, hSome, hTight, rfl⟩ := hLabel hSpan
    exact Span.within_of_eq (c := s.trail) (by simp [text, fromLabel, hSome]) hTight.ne_nil rfl rfl
  · simp [Span.Before, parts, beforeOperator]
  · simp [Span.Before, parts, beforeRight]
  · obtain ⟨label, -, -, rfl⟩ := hLabel hSpan
    simp [Span.Before, parts, beforeLabel]
  · obtain ⟨label, hSome, hTight, rfl⟩ := hLabel hSpan
    rw [s.slice_label hSome, hTight.trim_eq]

/-- What is read behind a name is read off the tokens there, and no token is read twice: the remark is
in quotes and a modifier is not. -/
theorem Reading.AttributeTokens.exists_trailing {dataType : Token} {pieces trailing : List Token}
    (h : AttributeTokens g code dataType pieces trailing) :
    ∃ chosen : List Token, (attributeParts g code).trailing = chosen.map Token.span ∧
      (∀ token ∈ chosen, token ∈ trailing) ∧ (chosen.map Token.span).Pairwise Span.Apart := by
  have hApart : trailing.Pairwise fun a b => a.span.Apart b.span := by
    have hOrder := h.layout.pairwise_before
    rw [List.pairwise_map, ← List.cons_append, List.pairwise_append] at hOrder
    exact hOrder.2.1.imp Or.inl
  have hSymm : Std.Symm fun a b : Token => a.span.Apart b.span := ⟨fun _ _ => Or.symm⟩
  refine ⟨(trailing.filter fun token => isModifierText g token.text) ++
    (trailing.find? Token.isQuoted).toList, ?_, fun token hToken => ?_, ?_⟩
  · rw [h.parts_eq, List.map_append]
    cases hFind : trailing.find? Token.isQuoted <;> rw [AttributeParts.trailing] <;> rfl
  · rcases List.mem_append.mp hToken with hIn | hIn
    · exact List.mem_of_mem_filter hIn
    · exact List.mem_of_find?_eq_some (Option.mem_toList.mp hIn)
  · rw [List.pairwise_map, List.pairwise_append]
    refine ⟨hApart.filter _, by cases trailing.find? Token.isQuoted <;> simp, fun a ha b hb => ?_⟩
    obtain ⟨haIn, haText⟩ := List.mem_filter.mp ha
    have hb := Option.mem_toList.mp hb
    refine hApart.forall haIn (List.mem_of_find?_eq_some hb) ?_
    rintro rfl
    have hQuoted := List.find?_some hb
    rw [isModifierText, Bool.and_eq_true, Bool.not_eq_true'] at haText
    rw [Token.isQuoted, haText.1] at hQuoted
    cases hQuoted

theorem Reading.AttributeTokens.placed {dataType : Token} {pieces trailing : List Token}
    (h : AttributeTokens g code dataType pieces trailing) : (attributeParts g code).Placed code := by
  obtain ⟨chosen, hParts, hChosen, hApart⟩ := h.exists_trailing
  have hLeading : (attributeParts g code).leading = (dataType :: pieces).map Token.span := by
    rw [h.parts_eq]
    rfl
  have hOrder := h.layout.pairwise_before
  rw [← List.cons_append, List.map_append, List.pairwise_append] at hOrder
  obtain ⟨hFront, -, hAcross⟩ := hOrder
  have hTrailing {span : Span} (hSpan : span ∈ (attributeParts g code).trailing) :
      span ∈ trailing.map Token.span := by
    rw [hParts] at hSpan
    exact List.map_subset _ hChosen hSpan
  refine {
    within := fun span hSpan => ?_
    leading := hLeading ▸ hFront
    leading_trailing := fun a ha b hb => hAcross a (hLeading ▸ ha) b (hTrailing hb)
    trailing := hParts ▸ hApart }
  have hToken : span ∈ (dataType :: (pieces ++ trailing)).map Token.span := by
    rw [← List.cons_append, List.map_append]
    rcases List.mem_append.mp hSpan with hIn | hIn
    · exact List.mem_append_left _ (hLeading ▸ hIn)
    · exact List.mem_append_right _ (hTrailing hIn)
  obtain ⟨token, hMem, rfl⟩ := List.mem_map.mp hToken
  exact h.layout.within_of_mem hMem

theorem LineKind.placed_kindOf (hg : g.WellFormed) (inside : Bool) (code : Text) :
    (Reading.kindOf g inside code).Placed g code := by
  generalize hKind : Reading.kindOf g inside code = kind
  cases hKind ▸ Reading.found_kindOf g inside code with
  | entityHeader hHeader =>
      obtain ⟨name, rest, hCode, hne, rfl⟩ := Reading.exists_of_header? hHeader
      exact Span.within_of_eq (a := []) hCode hne rfl (Nat.zero_add _).symm
  | relationship hParts hWord =>
      obtain ⟨s, hValid, rfl, rfl⟩ := Reading.exists_valid hParts
      exact hValid.placed hg
  | entityFooter hInside hBrace => trivial
  | entityAttribute hInside hBrace hRelationship hHeader =>
      rcases Reading.exists_attributeTokens g code with hNone | ⟨dataType, pieces, trailing, h⟩
      · rw [LineKind.Placed, Reading.attributeParts, hNone]
        exact ⟨List.forall_mem_nil _, .nil, List.forall_mem_nil _, .nil⟩
      · exact h.placed
  | other hOutside hRelationship hHeader => trivial

end ErDiagram
