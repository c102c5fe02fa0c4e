import ErDiagram.Repair.Decision

/-!
What can be decided in the code of a line. For each part of it there is no decision, or one that either
repairs the part or holds its repair back.
-/

namespace ErDiagram

namespace Repair

variable {g : Grammar} {code : Text}

theorem entityDecisions_cases (code : Text) (span : Span) :
    entityDecisions code span = [] ∨
      ∃ new, entityDecisions code span = [.renameEntity span (code.slice span) new] := by
  simp only [entityDecisions]
  cases EntityName.repair? (code.slice span) with
  | none => exact Or.inl rfl
  | some new => exact Or.inr ⟨new, rfl⟩

/-- Only a name of several pieces needs a decision, and where it is joined no guard was in the way. -/
theorem nameDecisions_cases (g : Grammar) (code : Text) (parts : AttributeParts) :
    nameDecisions g code parts = [] ∨ ∃ first second more, parts.name = first :: second :: more ∧
      let span : Span := ⟨first.start, ((second :: more).getLast (by simp)).stop⟩
      let joined := AttributeName.join (parts.name.map code.slice)
      nameDecisions g code parts = [.keepName joined] ∨
        nameDecisions g code parts = [.joinName span (code.slice span) joined] ∧
          g.hasOperator joined = false ∧ g.isKeyModifier joined = false ∧
          opensComment g code [⟨span, joined⟩] = false := by
  obtain ⟨dataType?, name, modifiers, remark?⟩ := parts
  rcases name with _ | ⟨first, _ | ⟨second, more⟩⟩
  · exact Or.inl rfl
  · exact Or.inl rfl
  · refine Or.inr ⟨first, second, more, rfl, ?_⟩
    simp only [nameDecisions]
    split
    next => exact Or.inl rfl
    next hGuards =>
      rw [Bool.or_eq_true, Bool.or_eq_true, not_or, not_or, Bool.not_eq_true, Bool.not_eq_true,
        Bool.not_eq_true, and_assoc] at hGuards
      exact Or.inr ⟨rfl, hGuards⟩

theorem labelDecisions_cases (g : Grammar) (code : Text) (sides : List Decision) (span : Span) :
    labelDecisions g code sides span = [] ∨
      labelDecisions g code sides span = [.keepLabel (code.slice span)] ∨
      ∃ new, labelDecisions g code sides span = [.camelCaseLabel span (code.slice span) new] := by
  simp only [labelDecisions]
  cases Label.camelCase? (code.slice span) with
  | none => exact Or.inl rfl
  | some new =>
      right
      simp only
      split
      next => exact Or.inl rfl
      next => exact Or.inr ⟨new, rfl⟩

/-- A decision on a relationship is one on the name on either side, or on the label. -/
theorem exists_part_of_mem {parts : RelationshipParts} {d : Decision}
    (h : d ∈ codeDecisions g code (.relationship parts)) :
    d ∈ entityDecisions code parts.left ∨ d ∈ entityDecisions code parts.right ∨
      ∃ sides span, parts.label? = some span ∧ d ∈ labelDecisions g code sides span := by
  have hSides (hIn : d ∈ entityDecisions code parts.left ++ entityDecisions code parts.right) :
      d ∈ entityDecisions code parts.left ∨ d ∈ entityDecisions code parts.right ∨
        ∃ sides span, parts.label? = some span ∧ d ∈ labelDecisions g code sides span :=
    (List.mem_append.mp hIn).imp id Or.inl
  simp only [codeDecisions] at h
  split at h
  next span hSpan =>
    rcases List.mem_append.mp h with hIn | hLabel
    · exact hSides hIn
    · exact Or.inr (Or.inr ⟨_, span, hSpan, hLabel⟩)
  next => exact hSides h

theorem stripComment_notMem_entityDecisions (kind : LineKind) (code : Text) (span : Span) :
    .stripComment kind ∉ entityDecisions code span := by
  rcases entityDecisions_cases code span with h | ⟨new, h⟩ <;> simp [h]

/-- No decision on the code of a line strips its comment. -/
theorem stripComment_notMem (kind : LineKind) (g : Grammar) (code : Text) (codeKind : LineKind) :
    .stripComment kind ∉ codeDecisions g code codeKind := by
  intro h
  cases codeKind with
  | entityHeader name => exact stripComment_notMem_entityDecisions kind code name h
  | entityAttribute parts =>
      rw [codeDecisions] at h
      rcases nameDecisions_cases g code parts with hAll | ⟨_, _, _, -, hAll | ⟨hAll, -⟩⟩ <;>
        simp [hAll] at h
  | relationship parts =>
      rcases exists_part_of_mem h with hLeft | hRight | ⟨sides, span, -, hLabel⟩
      · exact stripComment_notMem_entityDecisions kind code parts.left hLeft
      · exact stripComment_notMem_entityDecisions kind code parts.right hRight
      · rcases labelDecisions_cases g code sides span with hAll | hAll | ⟨new, hAll⟩ <;>
          simp [hAll] at hLabel
  | entityFooter => cases h
  | directive => cases h
  | other => cases h

end Repair

end ErDiagram
