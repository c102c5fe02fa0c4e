import ErDiagram.Proofs.Repair.Attribute
import ErDiagram.Proofs.Repair.Relationship

/-!
What repairs do to the code of a line under any grammar. They bring no blank to its edges and no line
feed into it, and once anything is replaced the old code does not lead the new one any more. So a line
with a repair on it never stays as it is, not even where the new code is longer.
-/

namespace ErDiagram.Repair

/-- The blanks at the ends of the new text were there before, and so were its line feeds. -/
structure KeepsEdges (old new : Text) : Prop where
  ne_nil : old ≠ [] → new ≠ []
  head : ∀ c, new.head? = some c → isBlank c = true → old.head? = some c
  last : ∀ c, new.getLast? = some c → isBlank c = true → old.getLast? = some c
  newline : '\n' ∈ new → '\n' ∈ old

namespace KeepsEdges

variable {old new : Text}

theorem refl (t : Text) : KeepsEdges t t :=
  ⟨id, fun _ h _ => h, fun _ h _ => h, id⟩

theorem of_underscored (h : Underscored old new) : KeepsEdges old new :=
  ⟨h.ne_nil, fun _ => h.head_of_blank, fun _ => h.last_of_blank,
    fun hMem => h.mem_of_mem hMem (by decide)⟩

/-- Behind a front that is not empty only the end of the new text counts. -/
theorem of_front {front front' : Text} (hFront : Underscored front front') (hne : front ≠ [])
    (hNil : new = [] → old = [])
    (hLast : ∀ c, new.getLast? = some c → isBlank c = true → old.getLast? = some c)
    (hNewline : '\n' ∈ new → '\n' ∈ old) : KeepsEdges (front ++ old) (front' ++ new) := by
  have hne' := hFront.ne_nil hne
  refine ⟨fun _ => by simp [hne'], fun c hc hBlank => ?_, fun c hc hBlank => ?_, fun hMem => ?_⟩
  · rw [List.head?_append_of_ne_nil _ hne'] at hc
    rw [List.head?_append_of_ne_nil _ hne]
    exact hFront.head_of_blank hc hBlank
  · by_cases hEmpty : new = []
    · rw [hEmpty, List.append_nil] at hc
      rw [hNil hEmpty, List.append_nil]
      exact hFront.last_of_blank hc hBlank
    · rw [List.getLast?_append_of_ne_nil _ hEmpty] at hc
      rw [List.getLast?_append, hLast c hc hBlank, Option.some_or]
  · rcases List.mem_append.mp hMem with hIn | hIn
    · exact List.mem_append_left _ (hFront.mem_of_mem hIn (by decide))
    · exact List.mem_append_right _ (hNewline hIn)

/-- Where there was nothing to trim, there is nothing now. -/
theorem trimEnd_append (h : KeepsEdges old new) (hOld : old.trimEnd = old) (hne : new ≠ [])
    (a : Text) : Text.trimEnd (a ++ new) = a ++ new := by
  apply Text.trimEnd_eq_self
  intro c hc
  apply Bool.eq_false_iff.mpr
  intro hBlank
  rw [List.getLast?_append_of_ne_nil _ hne] at hc
  have hNot := Text.trimEnd_eq_self_iff.mp hOld c (h.last c hc hBlank)
  rw [hBlank] at hNot
  cases hNot

end KeepsEdges

/-- How the code of a line is laid out, as far as a repair of it needs to know. -/
inductive Laid (g : Grammar) : Text → LineKind → Prop where
  | entityHeader (name rest : Text) : Laid g (name ++ rest) (.entityHeader ⟨0, name.size⟩)
  | entityAttribute (code : Text) :
      Laid g code (.entityAttribute (Reading.attributeParts g code))
  | relationship {s : RelationshipLayout} (hValid : s.Valid g) :
      Laid g s.text (.relationship s.parts)
  | idle {code : Text} {kind : LineKind} (hNone : codeDecisions g code kind = []) : Laid g code kind

theorem laid_kindOf (g : Grammar) (inside : Bool) (code : Text) :
    Laid g code (Reading.kindOf g inside code) := by
  generalize hKind : Reading.kindOf g inside code = kind
  cases hKind ▸ Reading.found_kindOf g inside code with
  | entityHeader hHeader =>
      obtain ⟨name, rest, rfl, -, rfl⟩ := Reading.exists_of_header? hHeader
      exact .entityHeader name rest
  | relationship hParts hWord =>
      obtain ⟨s, hValid, rfl, rfl⟩ := Reading.exists_valid hParts
      exact .relationship hValid
  | entityFooter hInside hBrace => exact .idle rfl
  | entityAttribute hInside hBrace hRelationship hHeader => exact .entityAttribute code
  | other hOutside hRelationship hHeader => exact .idle rfl

section Attribute

variable {s : NamePlace} {joined : Text}

theorem keepsEdges_joined (h : s.Splits joined) :
    KeepsEdges s.text (s.renamed joined).text := by
  obtain ⟨d, hName, hJoined⟩ := h.last
  have hFront : s.front ≠ [] := List.length_pos_iff.mp (Nat.lt_of_lt_of_le Nat.two_pos h.length_front)
  have hOld : s.text = s.front ++ (s.name ++ s.rest) := List.append_assoc ..
  have hNew : (s.renamed joined).text = s.front ++ (joined ++ s.rest) := List.append_assoc ..
  rw [hOld, hNew]
  refine .of_front (.refl s.front) hFront (fun hNil => ?_) (fun c hc _ => ?_) fun hMem => ?_
  · rw [(List.append_eq_nil_iff.mp hNil).1] at hJoined
    cases hJoined
  · rw [List.getLast?_append, hJoined] at hc
    rw [List.getLast?_append, hName]
    exact hc
  · rcases List.mem_append.mp hMem with hIn | hIn
    · exact List.mem_append_left _ (h.squeezed.subset hIn)
    · exact List.mem_append_right _ hIn

/-- A line with a joined name is shorter. -/
theorem length_joined_lt (h : s.Splits joined) :
    (s.renamed joined).text.length < s.text.length := by
  have hShorter := h.shorter
  have hNew : (s.renamed joined).text = s.front ++ joined ++ s.rest := rfl
  rw [hNew, NamePlace.text]
  simp only [List.length_append]
  omega

end Attribute

section Relationship

open RelationshipLayout

variable {g : Grammar} {s : RelationshipLayout}

theorem keepsEdges_repaired (h : s.Valid g) : KeepsEdges s.text (s.repaired g).text := by
  cases hNew : s.newLabel? g with
  | none =>
      rw [repaired, hNew]
      exact .of_underscored s.underscored_withLabel
  | some new =>
      obtain ⟨label, hLabel, hCamel, -⟩ := exists_of_newLabel? hNew
      obtain ⟨hne, hBlank⟩ := Label.camelCase?_word hCamel
      have hNotIn {c : Char} (hc : isBlank c = true) : c ∉ new := Text.not_mem_of_hasBlank hBlank hc
      have hOld : s.text = s.beforeLabel ++ (label ++ s.trail) := by
        rw [text, fromLabel, hLabel]
        rfl
      have hText : (s.repaired g).text =
          (s.withLabel (some new)).beforeLabel ++ (new ++ s.trail) := by
        rw [repaired, hNew]
        rfl
      have hFront : s.beforeLabel ≠ [] := by
        simp [beforeLabel, beforeRight, beforeOperator, h.left.ne_nil]
      rw [hOld, hText]
      refine .of_front (s.underscored_beforeLabel (some new)) hFront
        (fun hNil => absurd (List.append_eq_nil_iff.mp hNil).1 hne) (fun c hc hChar => ?_)
        fun hMem => ?_
      · cases hTrail : s.trail with
        | nil =>
            rw [hTrail, List.append_nil] at hc
            exact absurd (List.mem_of_getLast? hc) (hNotIn hChar)
        | cons d trail =>
            rw [hTrail] at hc
            simpa [List.getLast?_append] using hc
      · rcases List.mem_append.mp hMem with hIn | hIn
        · exact absurd hIn (hNotIn rfl)
        · exact List.mem_append_right _ hIn

/-- A text in front of the label that stays as it is has no name to repair. -/
theorem repair?_of_beforeLabel {label? : Option Text}
    (h : (s.withLabel label?).beforeLabel = s.beforeLabel) :
    EntityName.repair? s.left = none ∧ EntityName.repair? s.right = none := by
  have hLength (name : Text) : (EntityName.repair name).length = name.length :=
    (EntityName.underscored_repair name).length_eq
  have hParts : s.lead ++ (EntityName.repair s.left ++ (s.leftGap ++ s.operator ++ s.rightGap ++
      (EntityName.repair s.right ++ s.bridge))) =
      s.lead ++ (s.left ++ (s.leftGap ++ s.operator ++ s.rightGap ++ (s.right ++ s.bridge))) := by
    simpa [beforeLabel, beforeRight, beforeOperator, withLabel, revised] using h
  obtain ⟨hLeft, hRest⟩ := List.append_inj (List.append_cancel_left hParts) (hLength s.left)
  obtain ⟨hRight, -⟩ := List.append_inj (List.append_cancel_left hRest) (hLength s.right)
  exact ⟨EntityName.repair_eq_self_iff.mp hLeft, EntityName.repair_eq_self_iff.mp hRight⟩

/-- The old line leads the new one only if nothing is repaired: the names keep their lengths, and a
new label shows where the old one has its first blank. -/
theorem settled_of_prefix_repaired (h : s.Valid g) (hPrefix : s.text <+: (s.repaired g).text) :
    Settled g s.text (.relationship s.parts) := by
  have hBefore : (s.repaired g).beforeLabel = s.beforeLabel := by
    have hLeads := (List.prefix_append s.beforeLabel s.fromLabel).trans hPrefix
    have hLength := (s.underscored_beforeLabel ((s.newLabel? g).or s.label?)).length_eq
    have hShort : s.beforeLabel <+: (s.repaired g).beforeLabel :=
      List.prefix_of_prefix_length_le hLeads (List.prefix_append _ _) (Nat.le_of_eq hLength.symm)
    exact (hShort.eq_of_length hLength.symm).symm
  obtain ⟨hLeft, hRight⟩ := repair?_of_beforeLabel hBefore
  refine settled_relationship_iff.mpr ⟨hLeft, hRight, ?_⟩
  cases hNew : s.newLabel? g with
  | none => rfl
  | some new =>
      obtain ⟨label, hLabel, hCamel, -⟩ := exists_of_newLabel? hNew
      have hTight : Text.Tight label := (hLabel ▸ h.place).tight
      have hFrom : (s.repaired g).fromLabel = new ++ s.trail := by rw [repaired, hNew]; rfl
      rw [text, text, hBefore, List.prefix_append_right_inj, hFrom, fromLabel, hLabel] at hPrefix
      exact absurd ((List.prefix_append label s.trail).trans hPrefix)
        (Label.not_prefix_of_camelCase? hTight hCamel s.trail)

end Relationship

variable {g : Grammar} {code : Text} {kind : LineKind}

theorem keepsEdges_newCode (h : Laid g code kind)
    (hHead : ∀ c, code.head? = some c → isBlank c = false) :
    KeepsEdges code (newCode g code kind) := by
  cases h with
  | entityHeader name rest =>
      rw [newCode_entityHeader]
      exact .of_underscored ((EntityName.underscored_repair name).append (.refl rest))
  | entityAttribute =>
      rcases attribute_cases g hHead with hSettled | ⟨s, joined, hSplits, rfl, hEdits, -, -⟩
      · rw [newCode_of_settled hSettled]
        exact .refl code
      · rw [newCode_joined hEdits]
        exact keepsEdges_joined hSplits
  | relationship hValid =>
      rw [newCode_relationship]
      exact keepsEdges_repaired hValid
  | idle hNone =>
      rw [newCode_of_settled (by rw [Settled, hNone]; rfl)]
      exact .refl code

/-- The old code leads the new one only if nothing is repaired. -/
theorem settled_of_prefix (h : Laid g code kind)
    (hHead : ∀ c, code.head? = some c → isBlank c = false)
    (hPrefix : code <+: newCode g code kind) : Settled g code kind := by
  cases h with
  | entityHeader name rest =>
      rw [newCode_entityHeader] at hPrefix
      have hLength : (EntityName.repair name).length = name.length :=
        (EntityName.underscored_repair name).length_eq
      have hSame := hPrefix.eq_of_length (by rw [List.length_append, List.length_append, hLength])
      have hNone := EntityName.repair_eq_self_iff.mp (List.append_cancel_right hSame).symm
      rw [Settled, edits_entityHeader, hNone]
      rfl
  | entityAttribute =>
      rcases attribute_cases g hHead with hSettled | ⟨s, joined, hSplits, rfl, hEdits, -, -⟩
      · exact hSettled
      · rw [newCode_joined hEdits] at hPrefix
        exact absurd hPrefix.length_le (Nat.not_le_of_lt (length_joined_lt hSplits))
  | relationship hValid =>
      rw [newCode_relationship] at hPrefix
      exact settled_of_prefix_repaired hValid hPrefix
  | idle hNone =>
      rw [Settled, hNone]
      rfl

end ErDiagram.Repair
