import ErDiagram.Proofs.Edit
import ErDiagram.Proofs.Label
import ErDiagram.Proofs.Reading.Attribute
import ErDiagram.Proofs.Repair.Decision

/-!
The code of a line after its repair. It is laid out like the code before, so it is read as the same
kind with the same parts, and no repair is decided on it any more.
-/

namespace ErDiagram

/-- Two lines of one kind whose parts correspond as those of a line and of its repair do. -/
inductive LineKind.Matches (old new : Text) : LineKind → LineKind → Prop where
  | entityHeader {name name' : Span}
      (hName : new.slice name' = EntityName.repair (old.slice name)) :
      Matches old new (.entityHeader name) (.entityHeader name')
  | entityFooter : Matches old new .entityFooter .entityFooter
  | entityAttribute {parts parts' : AttributeParts} (hTexts : parts'.texts new = parts.texts old) :
      Matches old new (.entityAttribute parts) (.entityAttribute parts')
  | relationship {parts parts' : RelationshipParts}
      (hLeft : new.slice parts'.left = EntityName.repair (old.slice parts.left))
      (hOperator : new.slice parts'.operator = old.slice parts.operator)
      (hRight : new.slice parts'.right = EntityName.repair (old.slice parts.right))
      (hLabel : parts'.label?.map new.slice = parts.label?.map old.slice ∨
        parts'.label?.map new.slice = (parts.label?.map old.slice).map Label.camelCase) :
      Matches old new (.relationship parts) (.relationship parts')
  | directive : Matches old new .directive .directive
  | other : Matches old new .other .other

namespace Repair

/-- The code of a line after the repairs decided on it. -/
def newCode (g : Grammar) (code : Text) (kind : LineKind) : Text :=
  Edit.applyAll code ((codeDecisions g code kind).filterMap Decision.edit?)

/-- Nothing is left to repair in the code of a line. -/
def Settled (g : Grammar) (code : Text) (kind : LineKind) : Prop :=
  (codeDecisions g code kind).filterMap Decision.edit? = []

/-- What the repair of a line preserves, and what it achieves. -/
structure Stable (g : Grammar) (inside : Bool) (old new : Text) (kind : LineKind) : Prop where
  same : kind.Matches old new (Reading.kindOf g inside new)
  settled : Settled g new (Reading.kindOf g inside new)
  comment : Comment.find? g.commentMarker new = none
  directive : g.isDirective new = false

section

variable {g : Grammar} {inside : Bool} {code : Text}

theorem newCode_of_settled {kind : LineKind} (h : Settled g code kind) :
    newCode g code kind = code := by
  rw [newCode, h, Edit.applyAll_nil]

theorem settled_of_passThrough {kind : LineKind} (h : kind.isPassThrough = true) :
    Settled g code kind := by
  cases kind with
  | directive => rfl
  | other => rfl
  | entityHeader name => cases h
  | entityFooter => cases h
  | entityAttribute parts => cases h
  | relationship parts => cases h

/-- A line on which nothing is repaired stays stable. -/
theorem stable_self {kind : LineKind} (hReads : Reading.Reads g inside code kind)
    (hSettled : Settled g code kind) (hSame : kind.Matches code code kind)
    (hComment : Comment.find? g.commentMarker code = none) (hDirective : g.isDirective code = false) :
    Stable g inside code (newCode g code kind) kind := by
  rw [newCode_of_settled hSettled]
  have hKind := Reading.kindOf_eq_of_reads hReads
  exact ⟨hKind.symm ▸ hSame, hKind.symm ▸ hSettled, hComment, hDirective⟩

/-- The edits for an entity name are those of a stretch. -/
theorem edits_entityDecisions {name : Text} {start : Nat}
    (h : code.slice ⟨start, start + name.size⟩ = name) :
    (entityDecisions code ⟨start, start + name.size⟩).filterMap Decision.edit? =
      (Stretch.edit? start ⟨name, EntityName.repair? name⟩).toList := by
  simp only [entityDecisions, h]
  cases EntityName.repair? name with
  | none => rfl
  | some new => rfl

end

section Header

variable {g : Grammar} {inside : Bool}

/-- The edit for the name that a header starts with. -/
theorem edits_entityHeader (g : Grammar) (name rest : Text) :
    (codeDecisions g (name ++ rest) (.entityHeader ⟨0, name.size⟩)).filterMap Decision.edit? =
      (Stretch.edit? 0 ⟨name, EntityName.repair? name⟩).toList := by
  have hEdits := @edits_entityDecisions (name ++ rest) name 0
    (Text.slice_of_eq (a := []) rfl rfl rfl)
  rwa [Nat.zero_add] at hEdits

theorem newCode_entityHeader (g : Grammar) (name rest : Text) :
    newCode g (name ++ rest) (.entityHeader ⟨0, name.size⟩) = EntityName.repair name ++ rest := by
  have hApply := @Stretch.applyAll_edits (name ++ rest) [⟨name, EntityName.repair? name⟩, ⟨rest, none⟩]
    (by simp)
  have hEdits : Stretch.edits 0 [⟨name, EntityName.repair? name⟩, ⟨rest, none⟩] =
      (Stretch.edit? 0 ⟨name, EntityName.repair? name⟩).toList := List.append_nil _
  rw [newCode, edits_entityHeader, ← hEdits, hApply]
  simp [Stretch.new, EntityName.repair]

theorem edits_header (s : HeaderLayout) :
    (codeDecisions g s.text (.entityHeader ⟨0, s.name.size⟩)).filterMap Decision.edit? =
      (Stretch.edit? 0 ⟨s.name, EntityName.repair? s.name⟩).toList := by
  rw [s.text_eq, edits_entityHeader]

theorem newCode_header (s : HeaderLayout) :
    newCode g s.text (.entityHeader ⟨0, s.name.size⟩) =
      (s.renamed (EntityName.repair s.name)).text := by
  rw [s.text_eq, newCode_entityHeader, HeaderLayout.text_eq]
  rfl

theorem stable_header (hInert : g.Inert) {s : HeaderLayout} (h : s.Valid g)
    (hComment : Comment.find? g.commentMarker s.text = none)
    (hDirective : g.isDirective s.text = false) :
    Stable g inside s.text (newCode g s.text (.entityHeader ⟨0, s.name.size⟩))
      (.entityHeader ⟨0, s.name.size⟩) := by
  have hName := EntityName.underscored_repair s.name
  have hText := HeaderLayout.underscored_renamed hName
  have hReads : Reading.Reads g inside (s.renamed (EntityName.repair s.name)).text _ :=
    .entityHeader (h.renamed hInert hName)
  have hKind := Reading.kindOf_eq_of_reads hReads
  rw [newCode_header]
  refine ⟨?_, ?_, hInert.find?_of_underscored hText hComment,
    hInert.isDirective_of_underscored hText hDirective⟩
  · rw [hKind]
    exact .entityHeader (by rw [HeaderLayout.slice_name, s.slice_name]; rfl)
  · rw [hKind, Settled, edits_header]
    change (Stretch.edit? 0 ⟨_, EntityName.repair? (EntityName.repair s.name)⟩).toList = []
    rw [EntityName.repair?_repair]
    rfl

end Header

end Repair

end ErDiagram
