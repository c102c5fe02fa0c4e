import ErDiagram.Proofs.Repair.Stable

/-!
The repair of an attribute line. A name of several pieces is joined, unless the joined name would be
read as something else.
-/

namespace ErDiagram

theorem AttributeParts.exists_pieces {parts : AttributeParts} (h : ¬ parts.name.length ≤ 1) :
    ∃ first second more, parts.name = first :: second :: more := by
  obtain ⟨dataType?, _ | ⟨first, _ | ⟨second, more⟩⟩, modifiers, remark?⟩ := parts
  · exact absurd (Nat.zero_le 1) h
  · exact absurd (Nat.le_refl 1) h
  · exact ⟨first, second, more, rfl⟩

namespace NamePlace

variable {g : Grammar} {s : NamePlace} {joined : Text}

theorem applyAll_name (s : NamePlace) (joined : Text) :
    Edit.applyAll s.text [⟨⟨s.front.size, s.front.size + s.name.size⟩, joined⟩] =
      (s.renamed joined).text :=
  Stretch.applyAll_middle rfl joined

namespace Splits

theorem length_front (h : s.Splits joined) : 2 ≤ s.front.length := by
  obtain ⟨c, hHead, -⟩ := h.head
  have hType : s.dataType ≠ [] := by
    rintro hNil
    rw [hNil] at hHead
    cases hHead
  have := List.length_pos_iff.mpr hType
  have := List.length_pos_iff.mpr h.gap_ne_nil
  rw [front, List.length_append]
  omega

/-- Another name behind the gap does not bring a directive prefix to the start of a line. -/
theorem isDirective_renamed (hg : g.WellFormed) (h : s.Splits joined)
    (hOld : g.isDirective s.text = false) : g.isDirective (s.renamed joined).text = false := by
  have hText (name : Text) : (s.renamed name).text = s.dataType ++ (s.gap ++ name ++ s.rest) := by
    simp [text, renamed, front]
  obtain ⟨c, gap, hGap⟩ := List.exists_cons_of_ne_nil h.gap_ne_nil
  have hBlank : isBlank c = true :=
    isBlank_of_isGap (List.all_eq_true.mp h.gap c (hGap ▸ List.mem_cons_self))
  have hType : g.isDirective s.dataType = false := Grammar.isDirective_of_append (hText s.name ▸ hOld)
  rw [hText]
  exact hg.isDirective_append ⟨c, by rw [hGap]; rfl, hBlank⟩ hType

end Splits

end NamePlace

namespace Repair

open NamePlace

variable {g : Grammar} {code : Text}

/-- Whether a joined name is left in pieces on its line. -/
def keepsPieces (g : Grammar) (s : NamePlace) (joined : Text) : Bool :=
  g.hasOperator joined || g.isKeyModifier joined ||
    (Comment.find? g.commentMarker (s.renamed joined).text).isSome

/-- The decision on a name of several pieces. -/
theorem nameDecisions_eq {parts : AttributeParts} {first second : Span} {more : List Span}
    (hName : parts.name = first :: second :: more) {s : NamePlace} {joined : Text}
    (hJoined : joined = AttributeName.join (parts.name.map s.text.slice))
    (hStart : first.start = s.front.size)
    (hStop : ((second :: more).getLast (by simp)).stop = s.front.size + s.name.size) :
    nameDecisions g s.text parts =
      if keepsPieces g s joined then [.keepName joined]
      else [.joinName ⟨s.front.size, s.front.size + s.name.size⟩ s.name joined] := by
  obtain ⟨dataType?, name, modifiers, remark?⟩ := parts
  obtain rfl : name = first :: second :: more := hName
  have hSlice : s.text.slice ⟨s.front.size, s.front.size + s.name.size⟩ = s.name :=
    Text.slice_of_eq rfl rfl rfl
  simp only [nameDecisions, hStart, hStop, ← hJoined, opensComment, applyAll_name, hSlice]
  rfl

theorem edits_name {parts : AttributeParts} {first second : Span} {more : List Span}
    (hName : parts.name = first :: second :: more) {s : NamePlace} {joined : Text}
    (hJoined : joined = AttributeName.join (parts.name.map s.text.slice))
    (hStart : first.start = s.front.size)
    (hStop : ((second :: more).getLast (by simp)).stop = s.front.size + s.name.size) :
    (codeDecisions g s.text (.entityAttribute parts)).filterMap Decision.edit? =
      if keepsPieces g s joined then []
      else [⟨⟨s.front.size, s.front.size + s.name.size⟩, joined⟩] := by
  rw [codeDecisions, nameDecisions_eq hName hJoined hStart hStop]
  cases keepsPieces g s joined with
  | true => rfl
  | false => rfl

/-- A name of at most one piece needs no decision. -/
theorem nameDecisions_of_length_le {parts : AttributeParts} (h : parts.name.length ≤ 1) :
    nameDecisions g code parts = [] := by
  obtain ⟨dataType?, _ | ⟨first, _ | ⟨second, more⟩⟩, modifiers, remark?⟩ := parts
  · rfl
  · rfl
  · simp at h

theorem settled_of_length_le {parts : AttributeParts} (h : parts.name.length ≤ 1) :
    Settled g code (.entityAttribute parts) := by
  rw [Settled, codeDecisions, nameDecisions_of_length_le h]
  rfl

/-- Nothing is repaired on an attribute line, or the name on it is joined in its place. -/
theorem attribute_cases (g : Grammar) {code : Text}
    (hHead : ∀ c, code.head? = some c → isBlank c = false) :
    let kind := LineKind.entityAttribute (Reading.attributeParts g code)
    Settled g code kind ∨ ∃ (s : NamePlace) (joined : Text), s.Splits joined ∧ code = s.text ∧
      (codeDecisions g code kind).filterMap Decision.edit? =
        [⟨⟨s.front.size, s.front.size + s.name.size⟩, joined⟩] ∧
      keepsPieces g s joined = false ∧
      (g.isKeyModifier joined = false →
        (Reading.attributeParts g (s.renamed joined).text).texts (s.renamed joined).text =
          (Reading.attributeParts g code).texts code ∧
        (Reading.attributeParts g (s.renamed joined).text).name.length = 1) := by
  by_cases hLength : (Reading.attributeParts g code).name.length ≤ 1
  · exact Or.inl (settled_of_length_le hLength)
  · obtain ⟨first, second, more, hName⟩ := AttributeParts.exists_pieces hLength
    obtain ⟨s, joined, hSplits, rfl, hJoined, hStart, hStop, hTexts⟩ :=
      Reading.exists_place_of_pieces hHead hName
    have hEdits := @edits_name g _ _ _ _ hName s joined hJoined hStart hStop
    cases hKeeps : keepsPieces g s joined with
    | true => exact Or.inl (by rw [Settled, hEdits, hKeeps, if_pos rfl])
    | false =>
        refine Or.inr ⟨s, joined, hSplits, rfl, ?_, hKeeps, hTexts⟩
        rw [hEdits, hKeeps, if_neg Bool.false_ne_true]

theorem newCode_joined {s : NamePlace} {joined : Text} {kind : LineKind}
    (hEdits : (codeDecisions g s.text kind).filterMap Decision.edit? =
      [⟨⟨s.front.size, s.front.size + s.name.size⟩, joined⟩]) :
    newCode g s.text kind = (s.renamed joined).text := by
  rw [newCode, hEdits, applyAll_name]

theorem stable_attribute (hg : g.WellFormed) {parts : AttributeParts}
    (hReads : Reading.Reads g true code (.entityAttribute parts))
    (hHead : ∀ c, code.head? = some c → isBlank c = false)
    (hComment : Comment.find? g.commentMarker code = none)
    (hDirective : g.isDirective code = false) :
    Stable g true code (newCode g code (.entityAttribute parts)) (.entityAttribute parts) := by
  obtain ⟨-, -, -, -, rfl⟩ := hReads.attribute_inv
  rcases attribute_cases g hHead with hSettled | ⟨s, joined, hSplits, rfl, hEdits, hKeeps, hTexts⟩
  · exact stable_self hReads hSettled (.entityAttribute rfl) hComment hDirective
  · simp only [keepsPieces, Bool.or_eq_false_iff] at hKeeps
    obtain ⟨⟨hOperator, hModifier⟩, hFind⟩ := hKeeps
    obtain ⟨hSame, hPieces⟩ := hTexts hModifier
    have hKind := Reading.kindOf_eq_of_reads (hSplits.reads hg hOperator hReads)
    rw [newCode_joined hEdits]
    refine ⟨?_, ?_, by simpa using hFind, hSplits.isDirective_renamed hg hDirective⟩
    · rw [hKind]
      exact .entityAttribute hSame
    · rw [hKind]
      exact settled_of_length_le (Nat.le_of_eq hPieces)

end Repair

end ErDiagram
