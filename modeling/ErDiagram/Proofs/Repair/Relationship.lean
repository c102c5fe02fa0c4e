import ErDiagram.Proofs.Repair.Stable

/-!
The repair of a relationship line. Both names are repaired, and the label is camel-cased unless the
line would have a comment then; the parts stay where the layout has them.
-/

namespace ErDiagram

namespace RelationshipLayout

variable (g : Grammar) (s : RelationshipLayout)

/-- The layout with both names repaired, and another label. -/
def withLabel (label? : Option Text) : RelationshipLayout :=
  s.revised (EntityName.repair s.left) (EntityName.repair s.right) label?

/-- The camel-case form of the label, unless the line would have a comment with it. -/
def newLabel? : Option Text :=
  (s.label?.bind Label.camelCase?).filter fun label =>
    (Comment.find? g.commentMarker (s.withLabel (some label)).text).isNone

/-- The layout of the line after its repair. -/
def repaired : RelationshipLayout :=
  s.withLabel ((s.newLabel? g).or s.label?)

/-- The line in stretches: both names with their repairs, and the label with a replacement. -/
def stretches (label? : Option Text) : List Stretch :=
  [⟨s.lead, none⟩, ⟨s.left, EntityName.repair? s.left⟩,
    ⟨s.leftGap ++ s.operator ++ s.rightGap, none⟩, ⟨s.right, EntityName.repair? s.right⟩,
    ⟨s.bridge, none⟩, ⟨s.label?.getD [], label?⟩, ⟨s.trail, none⟩]

theorem before_stretches (label? : Option Text) : Stretch.before (s.stretches label?) = s.text := by
  simp [stretches, text_eq]

theorem after_stretches (label? : Option Text) :
    Stretch.after (s.stretches label?) = (s.withLabel (label?.or s.label?)).text := by
  cases label? with
  | none => simp [stretches, withLabel, revised, text_eq, Stretch.new, EntityName.repair]
  | some label => simp [stretches, withLabel, revised, text_eq, Stretch.new, EntityName.repair]

theorem edits_stretches (label? : Option Text) :
    Stretch.edits 0 (s.stretches label?) =
      (Stretch.edit? s.lead.size ⟨s.left, EntityName.repair? s.left⟩).toList ++
        (Stretch.edit? s.beforeRight.size ⟨s.right, EntityName.repair? s.right⟩).toList ++
        (Stretch.edit? s.beforeLabel.size ⟨s.label?.getD [], label?⟩).toList := by
  simp [stretches, Stretch.edits, Stretch.edit?, beforeLabel, beforeRight, beforeOperator,
    Nat.add_assoc]

/-- The text in front of the label keeps its characters up to underscores for hyphens. -/
theorem underscored_beforeLabel (label? : Option Text) :
    Underscored s.beforeLabel (s.withLabel label?).beforeLabel :=
  ((((((Underscored.refl s.lead).append (EntityName.underscored_repair s.left)).append
    (.refl s.leftGap)).append (.refl s.operator)).append (.refl s.rightGap)).append
      (EntityName.underscored_repair s.right)).append (.refl s.bridge)

theorem underscored_withLabel : Underscored s.text (s.withLabel s.label?).text :=
  (s.underscored_beforeLabel s.label?).append (.refl s.fromLabel)

end RelationshipLayout

namespace Repair

open RelationshipLayout

variable {g : Grammar} {s : RelationshipLayout}

theorem edits_sides (s : RelationshipLayout) :
    (entityDecisions s.text s.parts.left ++ entityDecisions s.text s.parts.right).filterMap
        Decision.edit? = Stretch.edits 0 (s.stretches none) := by
  rw [edits_stretches, List.filterMap_append]
  change (entityDecisions s.text ⟨s.lead.size, s.lead.size + s.left.size⟩).filterMap _ ++
    (entityDecisions s.text ⟨s.beforeRight.size, s.beforeRight.size + s.right.size⟩).filterMap _ = _
  rw [edits_entityDecisions s.slice_left, edits_entityDecisions s.slice_right]
  exact (List.append_nil _).symm

theorem edits_label {label : Text} (h : s.label? = some label) (new : Text) :
    Stretch.edits 0 (s.stretches (some new)) = Stretch.edits 0 (s.stretches none) ++
      [⟨⟨s.beforeLabel.size, s.beforeLabel.size + label.size⟩, new⟩] := by
  rw [edits_stretches, edits_stretches, h]
  simp [Stretch.edit?]

/-- The guard looks at the line with both names repaired and the new label. -/
theorem opensComment_label (g : Grammar) {label : Text} (h : s.label? = some label) (new : Text) :
    opensComment g s.text (Stretch.edits 0 (s.stretches none) ++
        [⟨⟨s.beforeLabel.size, s.beforeLabel.size + label.size⟩, new⟩]) =
      (Comment.find? g.commentMarker (s.withLabel (some new)).text).isSome := by
  rw [opensComment, ← edits_label h, Stretch.applyAll_edits (s.before_stretches _).symm,
    after_stretches]
  rfl

/-- A label without a camel-case form needs no decision. -/
theorem labelDecisions_of_none (g : Grammar) {label : Text} (h : s.label? = some label)
    (hNew : Label.camelCase? label = none) (sides : List Decision) :
    labelDecisions g s.text sides ⟨s.beforeLabel.size, s.beforeLabel.size + label.size⟩ = [] := by
  simp only [labelDecisions, s.slice_label h, hNew]

theorem labelDecisions_of_some (g : Grammar) {label new : Text} (h : s.label? = some label)
    (hNew : Label.camelCase? label = some new) :
    labelDecisions g s.text (entityDecisions s.text s.parts.left ++
        entityDecisions s.text s.parts.right)
      ⟨s.beforeLabel.size, s.beforeLabel.size + label.size⟩ =
      if (Comment.find? g.commentMarker (s.withLabel (some new)).text).isSome then [.keepLabel label]
      else [.camelCaseLabel ⟨s.beforeLabel.size, s.beforeLabel.size + label.size⟩ label new] := by
  simp only [labelDecisions, s.slice_label h, hNew, edits_sides, opensComment_label g h]

theorem edits_labelDecisions (g : Grammar) {label : Text} (h : s.label? = some label) :
    (labelDecisions g s.text (entityDecisions s.text s.parts.left ++
        entityDecisions s.text s.parts.right)
      ⟨s.beforeLabel.size, s.beforeLabel.size + label.size⟩).filterMap Decision.edit? =
      (Stretch.edit? s.beforeLabel.size ⟨label, s.newLabel? g⟩).toList := by
  rw [newLabel?, h, Option.bind_some]
  cases hNew : Label.camelCase? label with
  | none =>
      rw [labelDecisions_of_none g h hNew]
      rfl
  | some new =>
      rw [labelDecisions_of_some g h hNew, Option.filter_some]
      cases Comment.find? g.commentMarker (s.withLabel (some new)).text with
      | none => rfl
      | some n => rfl

theorem edits_relationship (g : Grammar) (s : RelationshipLayout) :
    (codeDecisions g s.text (.relationship s.parts)).filterMap Decision.edit? =
      Stretch.edits 0 (s.stretches (s.newLabel? g)) := by
  cases h : s.label? with
  | none =>
      have hNone : s.newLabel? g = none := by rw [newLabel?, h]; rfl
      rw [hNone, ← edits_sides]
      simp [codeDecisions, parts, h]
  | some label =>
      have hParts : s.parts.label? =
          some ⟨s.beforeLabel.size, s.beforeLabel.size + label.size⟩ := by rw [parts, h]; rfl
      simp only [codeDecisions, hParts]
      rw [List.filterMap_append, edits_sides, edits_labelDecisions g h, edits_stretches,
        edits_stretches, h]
      simp [Stretch.edit?]

theorem newCode_relationship (g : Grammar) (s : RelationshipLayout) :
    newCode g s.text (.relationship s.parts) = (s.repaired g).text := by
  rw [newCode, edits_relationship, Stretch.applyAll_edits (s.before_stretches _).symm,
    after_stretches]
  rfl

theorem settled_relationship_iff :
    Settled g s.text (.relationship s.parts) ↔
      EntityName.repair? s.left = none ∧ EntityName.repair? s.right = none ∧
        s.newLabel? g = none := by
  rw [Settled, edits_relationship, edits_stretches]
  simp [Stretch.edit?]

theorem exists_of_newLabel? {new : Text} (h : s.newLabel? g = some new) :
    ∃ label, s.label? = some label ∧ Label.camelCase? label = some new ∧
      Comment.find? g.commentMarker (s.withLabel (some new)).text = none := by
  obtain ⟨hSome, hFind⟩ := Option.filter_eq_some_iff.mp h
  obtain ⟨label, hLabel, hNew⟩ := Option.bind_eq_some_iff.mp hSome
  exact ⟨label, hLabel, hNew, by simpa using hFind⟩

theorem withLabel_withLabel (s : RelationshipLayout) (label? other? : Option Text) :
    (s.withLabel label?).withLabel other? = s.withLabel other? := by
  simp [withLabel, revised, EntityName.repair_repair]

/-- The label behind a repair is camel-cased already, or would still open a comment. -/
theorem newLabel?_repaired (g : Grammar) (s : RelationshipLayout) :
    (s.repaired g).newLabel? g = none := by
  cases h : s.newLabel? g with
  | none =>
      rw [repaired, h, Option.none_or, ← h]
      simp only [newLabel?, withLabel_withLabel]
      rfl
  | some new =>
      obtain ⟨label, -, hNew, -⟩ := exists_of_newLabel? h
      have hLabel : (s.repaired g).label? = some new := by
        rw [repaired, h]
        rfl
      rw [newLabel?, hLabel, Option.bind_some, Label.camelCase?_eq_none (Label.camelCase?_word hNew).2]
      rfl

theorem place_repaired (h : s.Valid g) :
    LabelPlace s.bridge ((s.newLabel? g).or s.label?) s.trail := by
  cases hNew : s.newLabel? g with
  | none => exact h.place
  | some new =>
      obtain ⟨label, hLabel, hCamel, -⟩ := exists_of_newLabel? hNew
      obtain ⟨hne, hBlank⟩ := Label.camelCase?_word hCamel
      exact (hLabel ▸ h.place).relabel (.of_hasBlank hne hBlank)

/-- The label is the one before or its camel-case form. -/
theorem label?_repaired (g : Grammar) (s : RelationshipLayout) :
    (s.repaired g).label? = s.label? ∨ (s.repaired g).label? = s.label?.map Label.camelCase := by
  cases h : s.newLabel? g with
  | none => exact Or.inl (by rw [repaired, h]; rfl)
  | some new =>
      obtain ⟨label, hLabel, hNew, -⟩ := exists_of_newLabel? h
      refine Or.inr ?_
      rw [repaired, h, hLabel, Option.map_some, Label.camelCase, hNew]
      rfl

theorem find?_repaired (hInert : g.Inert)
    (hComment : Comment.find? g.commentMarker s.text = none) :
    Comment.find? g.commentMarker (s.repaired g).text = none := by
  cases h : s.newLabel? g with
  | none =>
      rw [repaired, h]
      exact hInert.find?_of_underscored s.underscored_withLabel hComment
  | some new =>
      obtain ⟨label, -, -, hFind⟩ := exists_of_newLabel? h
      rw [repaired, h]
      exact hFind

theorem isDirective_repaired (hInert : g.Inert) (h : s.Valid g)
    (hOld : g.isDirective s.text = false) : g.isDirective (s.repaired g).text = false := by
  rw [Bool.eq_false_iff, ne_eq, Grammar.isDirective, List.isPrefixOf_iff_prefix] at hOld ⊢
  rintro ⟨rest, hRest⟩
  obtain ⟨x, y, hText, hx⟩ := h.exists_of_revised (x := []) (EntityName.underscored_repair s.left)
    (EntityName.underscored_repair s.right) (place_repaired h) hInert.directive_underscore
    hInert.directive_label hRest (Nat.zero_le _)
  rw [List.length_eq_zero_iff.mp hx] at hText
  exact hOld ⟨y, hText⟩

theorem stable_relationship (hInert : g.Inert) {inside : Bool} (h : s.Valid g)
    (hWord : inside = true → s.left.hasBlank = false)
    (hComment : Comment.find? g.commentMarker s.text = none)
    (hDirective : g.isDirective s.text = false) :
    Stable g inside s.text (newCode g s.text (.relationship s.parts)) (.relationship s.parts) := by
  have hLeft := EntityName.underscored_repair s.left
  have hValid : (s.repaired g).Valid g :=
    h.revised hInert hLeft (EntityName.underscored_repair s.right) (place_repaired h)
  have hReads : Reading.Reads g inside (s.repaired g).text (.relationship (s.repaired g).parts) :=
    .relationship hValid fun hInside => hLeft.hasBlank_eq.trans (hWord hInside)
  have hKind := Reading.kindOf_eq_of_reads hReads
  rw [newCode_relationship]
  refine ⟨?_, ?_, find?_repaired hInert hComment, isDirective_repaired hInert h hDirective⟩
  · rw [hKind]
    refine .relationship ?_ ?_ ?_ ?_
    · rw [slice_left, slice_left]
      rfl
    · rw [slice_operator, slice_operator]
      rfl
    · rw [slice_right, slice_right]
      rfl
    · rw [slice_label?, slice_label?]
      exact label?_repaired g s
  · rw [hKind]
    exact settled_relationship_iff.mpr ⟨EntityName.repair?_repair _, EntityName.repair?_repair _,
      newLabel?_repaired g s⟩

end Repair

end ErDiagram
