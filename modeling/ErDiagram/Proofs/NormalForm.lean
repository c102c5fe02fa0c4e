import ErDiagram.Proofs.Repair.Run

/-!
The normal form of a text, said of what its lines mean and not of how they are repaired. A repaired
text is in normal form, and the texts in normal form are those that a repair leaves as they are.
-/

namespace ErDiagram

/-- A name without hyphens, or one that has a blank or stands in double quotes. -/
def EntityName.IsNormal (name : Text) : Prop :=
  '-' ∈ name → name.hasBlank = true ∨
    (2 ≤ name.length ∧ name.head? = some '"' ∧ name.getLast? = some '"')

/-- A text with another one in the place of a span. -/
def Text.replace (t : Text) (span : Span) (new : Text) : Text :=
  t.takeBytes span.start ++ new ++ t.dropBytes span.stop

/-- From the first piece of an attribute name to the last one. -/
def AttributeParts.nameSpan (parts : AttributeParts) : Span where
  start := (parts.name.head?.map Span.start).getD 0
  stop := (parts.name.getLast?.map Span.stop).getD 0

namespace LineKind

/-- A name in one piece, or one whose pieces mean something else when they are put together. -/
def IsNormalName (g : Grammar) (content : Text) (parts : AttributeParts) : Prop :=
  let joined := AttributeName.join (parts.name.map content.slice)
  parts.name.length ≤ 1 ∨ g.hasOperator joined = true ∨ g.isKeyModifier joined = true ∨
    Comment.Occurs g.commentMarker (content.replace parts.nameSpan joined)

/-- A label of one word, or one whose camel-case form opens a comment. -/
def IsNormalLabel (g : Grammar) (content : Text) (label : Span) : Prop :=
  (content.slice label).hasBlank = false ∨
    Comment.Occurs g.commentMarker
      (content.replace label (Label.camelCase (content.slice label)))

/-- The parts of a line are as a repair would leave them. -/
def IsNormal (g : Grammar) (content : Text) : LineKind → Prop
  | .entityHeader name => EntityName.IsNormal (content.slice name)
  | .entityAttribute parts => IsNormalName g content parts
  | .relationship parts =>
    EntityName.IsNormal (content.slice parts.left) ∧ EntityName.IsNormal (content.slice parts.right) ∧
      ∀ label, parts.label? = some label → IsNormalLabel g content label
  | .entityFooter => True
  | .directive => True
  | .other => True

end LineKind

/-- A line in normal form. Lines that mean nothing are. -/
def Sighting.IsNormal (g : Grammar) (s : Sighting) : Prop :=
  s.reading.kind.isPassThrough = false →
    ¬ Comment.Occurs g.commentMarker s.content ∧ s.reading.kind.IsNormal g s.content

/-- A text all of whose lines are in normal form, each in the state that the lines before it leave. -/
def IsNormal (g : Grammar) (t : Text) : Prop :=
  ∀ s ∈ sightingsOf g t, s.IsNormal g

namespace EntityName

theorem isQuoted_iff {name : Text} :
    isQuoted name = true ↔ 2 ≤ name.length ∧ name.head? = some '"' ∧ name.getLast? = some '"' := by
  rw [isQuoted, Bool.and_eq_true, Bool.and_eq_true, beq_iff_eq, beq_iff_eq, decide_eq_true_eq,
    and_assoc]
  refine and_congr_left fun ⟨hHead, _⟩ => ?_
  obtain ⟨rest, rfl⟩ := List.head?_eq_some_iff.mp hHead
  cases rest with
  | nil => decide
  | cons c rest =>
      have := Char.utf8Size_pos c
      have : ('"' : Char).utf8Size = 1 := rfl
      simp only [Text.size_cons, List.length_cons]
      omega

theorem repair?_eq_none_iff {name : Text} : repair? name = none ↔ IsNormal name := by
  have hNeeds : repair? name = none ↔ needsRepair name = false := by
    rw [repair?]
    cases needsRepair name <;> simp
  rw [hNeeds, IsNormal, ← isQuoted_iff, needsRepair]
  by_cases hMem : '-' ∈ name
  · cases isQuoted name <;> simp [hMem]
  · simp [hMem]

end EntityName

theorem Text.replace_of_eq {t a b c : Text} {n m : Nat} (h : t = a ++ b ++ c) (hn : n = a.size)
    (hm : m = a.size + b.size) (new : Text) : t.replace ⟨n, m⟩ new = a ++ new ++ c := by
  rw [replace, takeBytes_of_eq (h.trans (List.append_assoc ..)) hn,
    dropBytes_of_eq h (by rw [hm, size_append])]

variable {g : Grammar}

theorem Grammar.IsMermaid.find?_isSome_iff (hg : g.IsMermaid) (t : Text) :
    (Comment.find? g.commentMarker t).isSome ↔ Comment.Occurs g.commentMarker t :=
  Comment.find?_isSome_iff ⟨'/', by rw [hg.commentMarker]; rfl, by decide⟩ t

namespace Repair

theorem settled_header_iff {s : HeaderLayout} :
    Settled g s.text (.entityHeader ⟨0, s.name.size⟩) ↔
      LineKind.IsNormal g s.text (.entityHeader ⟨0, s.name.size⟩) := by
  rw [Settled, edits_header, LineKind.IsNormal, s.slice_name, ← EntityName.repair?_eq_none_iff]
  cases EntityName.repair? s.name <;> simp [Stretch.edit?]

/-- Where both names stay as they are, a label is left alone exactly when it is normal. -/
theorem newLabel?_eq_none_iff (hg : g.IsMermaid) {s : RelationshipLayout} (h : s.Valid g)
    (hLeft : EntityName.repair? s.left = none) (hRight : EntityName.repair? s.right = none) :
    s.newLabel? g = none ↔
      ∀ label, s.parts.label? = some label → LineKind.IsNormalLabel g s.text label := by
  cases hLabel : s.label? with
  | none =>
      rw [RelationshipLayout.newLabel?, RelationshipLayout.parts, hLabel]
      simp
  | some label =>
      have hTight : Text.Tight label := (hLabel ▸ h.place).tight
      have hParts : s.parts.label? = some ⟨s.beforeLabel.size, s.beforeLabel.size + label.size⟩ := by
        rw [RelationshipLayout.parts, hLabel]
        rfl
      rw [hParts]
      simp only [Option.some.injEq, forall_eq', LineKind.IsNormalLabel, s.slice_label hLabel]
      cases hBlank : label.hasBlank with
      | false =>
          rw [RelationshipLayout.newLabel?, hLabel, Option.bind_some, Label.camelCase?_eq_none hBlank]
          simp
      | true =>
          obtain ⟨new, hNew⟩ := Option.isSome_iff_exists.mp (Label.camelCase?_isSome hTight hBlank)
          have hText : s.text.replace ⟨s.beforeLabel.size, s.beforeLabel.size + label.size⟩ new =
              (s.withLabel (some new)).text := by
            have hSame : s.withLabel (some new) = { s with label? := some new } := by
              simp only [RelationshipLayout.withLabel, RelationshipLayout.revised,
                EntityName.repair, hLeft, hRight, Option.getD_none]
            rw [hSame, Text.replace_of_eq (a := s.beforeLabel) (c := s.trail) _ rfl rfl]
            · exact List.append_assoc ..
            · simp [RelationshipLayout.text, RelationshipLayout.fromLabel, hLabel]
          rw [Label.camelCase, hNew, Option.getD_some, hText, ← hg.find?_isSome_iff,
            RelationshipLayout.newLabel?, hLabel, Option.bind_some, hNew, Option.filter_some]
          cases Comment.find? g.commentMarker (s.withLabel (some new)).text <;> simp

theorem settled_attribute_iff (hg : g.IsMermaid) {code : Text}
    (hHead : ∀ c, code.head? = some c → isBlank c = false) :
    Settled g code (.entityAttribute (Reading.attributeParts g code)) ↔
      LineKind.IsNormal g code (.entityAttribute (Reading.attributeParts g code)) := by
  rw [LineKind.IsNormal, LineKind.IsNormalName]
  by_cases hLength : (Reading.attributeParts g code).name.length ≤ 1
  · exact iff_of_true (settled_of_length_le hLength) (Or.inl hLength)
  · obtain ⟨first, second, more, hName⟩ := AttributeParts.exists_pieces hLength
    obtain ⟨s, joined, -, rfl, hJoined, hStart, hStop, -⟩ :=
      Reading.exists_place_of_pieces hHead hName
    have hSpan : (Reading.attributeParts g s.text).nameSpan =
        ⟨s.front.size, s.front.size + s.name.size⟩ := by
      rw [AttributeParts.nameSpan, hName, ← hStop, ← hStart]
      rfl
    have hText : s.text.replace ⟨s.front.size, s.front.size + s.name.size⟩ joined =
        (s.renamed joined).text := Text.replace_of_eq rfl rfl rfl joined
    rw [Settled, edits_name hName hJoined hStart hStop, ← hJoined, hSpan, hText,
      ← hg.find?_isSome_iff, keepsPieces]
    cases g.hasOperator joined <;> cases g.isKeyModifier joined <;>
      cases Comment.find? g.commentMarker (s.renamed joined).text <;> simp [hLength]

/-- Nothing is to be repaired on a line exactly when its parts are normal. -/
theorem settled_iff (hg : g.IsMermaid) {inside : Bool} {code : Text} {kind : LineKind}
    (hReads : Reading.Reads g inside code kind)
    (hHead : ∀ c, code.head? = some c → isBlank c = false) :
    Settled g code kind ↔ kind.IsNormal g code := by
  cases hReads with
  | entityHeader hValid => exact settled_header_iff
  | @relationship s hValid hWord =>
      rw [settled_relationship_iff, LineKind.IsNormal, s.slice_left, s.slice_right,
        ← EntityName.repair?_eq_none_iff, ← EntityName.repair?_eq_none_iff]
      exact and_congr_right fun hLeft => and_congr_right fun hRight =>
        newLabel?_eq_none_iff hg hValid hLeft hRight
  | entityFooter hInside hBrace => exact iff_of_true rfl trivial
  | entityAttribute hInside hBrace hRelationship hHeader => exact settled_attribute_iff hg hHead
  | other hOutside hRelationship hHeader => exact iff_of_true rfl trivial

end Repair

/-- A line is clean exactly when it is in normal form. -/
theorem Sighting.clean_iff (hg : g.IsMermaid) {state : BlockState} {content : Text}
    (hHead : ∀ c, content.head? = some c → isBlank c = false) :
    (Sighting.of g state content).Clean g ↔ (Sighting.of g state content).IsNormal g := by
  cases hPass : (readLine g state content).kind.isPassThrough with
  | true =>
      refine iff_of_true ⟨?_, fun hNot => ?_⟩ fun hNot => ?_
      · exact Repair.settled_of_passThrough hPass
      · exact absurd (hPass.symm.trans hNot) Bool.noConfusion
      · exact absurd (hPass.symm.trans hNot) Bool.noConfusion
  | false =>
      have hDirective := not_directive_of_kind hPass
      rcases @code_cases g state content hDirective with ⟨hNone, hCode, hFind⟩ | ⟨hSome, -, hFind⟩
      · have hOccurs : ¬ Comment.Occurs g.commentMarker content := by
          rw [← hg.find?_isSome_iff, hFind]
          exact Bool.false_ne_true
        have hKind := @kind_of_not_directive g state content hDirective
        rw [Comment.strip_eq_self hFind] at hKind
        have hSettled := Repair.settled_iff hg ((Reading.reads_iff hg.wellFormed).mpr hKind.symm) hHead
        refine ⟨fun hClean _ => ⟨hOccurs, ?_⟩, fun hNormal => ⟨?_, fun _ => hNone⟩⟩
        · have hParts : Repair.Settled g ((readLine g state content).code content)
            (readLine g state content).kind := hClean.settled
          rw [hCode] at hParts
          exact hSettled.mp hParts
        · change Repair.Settled g ((readLine g state content).code content)
            (readLine g state content).kind
          rw [hCode]
          exact hSettled.mpr (hNormal hPass).2
      · refine iff_of_false (fun hClean => ?_) fun hNormal => ?_
        · exact absurd (hSome.symm.trans (hClean.comment hPass)) Bool.noConfusion
        · exact (hNormal hPass).1 ((hg.find?_isSome_iff content).mp hFind)

/-- Every line of a text is clean exactly when the text is in normal form. -/
theorem clean_iff_isNormal (hg : g.IsMermaid) (t : Text) :
    (∀ s ∈ sightingsOf g t, s.Clean g) ↔ IsNormal g t := by
  apply forall₂_congr
  intro s hs
  obtain ⟨state, content, hMem, rfl⟩ := exists_of_mem_sightings hs
  obtain ⟨line, -, rfl⟩ := List.mem_map.mp hMem
  exact Sighting.clean_iff hg (splitIndent_spec line.body).2.2

/-- A repaired text is its own repair, and the report of the second repair is clean. This holds
whatever key modifiers a grammar has besides those of Mermaid. -/
theorem normalize_normalize (hg : g.ExtendsMermaid) (t : Text) :
    normalize g (normalize g t) = normalize g t ∧
      (repairReport g (normalize g t)).isClean = true ∧
      (repairReport g (normalize g t)).repairCount = 0 :=
  normalize_eq_self_of_clean (Repair.clean_normalize hg.isMermaid t)

/-- The modifier that the grammar adds stays behind the name. -/
theorem normalize_normalize_withNotNull :
    let t := "A-B \x7b // c\n int a b NN\nA-B ||--o\x7b C : is a".toList
    let new := "A_B \x7b\n int ab NN\nA_B ||--o\x7b C : isA".toList
    Grammar.withNotNull.ExtendsMermaid ∧ normalize Grammar.withNotNull t = new ∧
      (repairReport Grammar.withNotNull t).repairCount = 5 ∧
      normalize Grammar.withNotNull new = new ∧
      (repairReport Grammar.withNotNull new).isClean = true ∧
      (repairReport Grammar.withNotNull new).repairCount = 0 := by
  intro t new
  have hNew : normalize Grammar.withNotNull t = new := by decide +kernel
  have hAgain := normalize_normalize Grammar.extendsMermaid_withNotNull t
  rw [hNew] at hAgain
  exact ⟨Grammar.extendsMermaid_withNotNull, hNew, by decide +kernel, hAgain⟩

/-- A repaired text is in normal form, and a repair leaves a text as it is exactly when the text is in
normal form. -/
theorem isNormal_normalize_and_iff (hg : g.ExtendsMermaid) (t : Text) :
    IsNormal g (normalize g t) ∧ (normalize g t = t ↔ IsNormal g t) := by
  have hNormal := (clean_iff_isNormal hg.isMermaid _).mp (Repair.clean_normalize hg.isMermaid t)
  refine ⟨hNormal, fun hSame => hSame ▸ hNormal, fun hText => ?_⟩
  exact (normalize_eq_self_of_clean ((clean_iff_isNormal hg.isMermaid t).mpr hText)).1

/-- One text that is not in normal form, and what it is repaired to. -/
theorem isNormal_normalize_and_iff_withNotNull :
    let t := "A-B \x7b // c\n int a b NN\nA-B ||--o\x7b C : is a".toList
    let new := "A_B \x7b\n int ab NN\nA_B ||--o\x7b C : isA".toList
    Grammar.withNotNull.ExtendsMermaid ∧ normalize Grammar.withNotNull t = new ∧
      IsNormal Grammar.withNotNull new ∧ ¬ IsNormal Grammar.withNotNull t ∧
      (normalize Grammar.withNotNull t = t ↔ IsNormal Grammar.withNotNull t) := by
  intro t new
  have hNew : normalize Grammar.withNotNull t = new := by decide +kernel
  obtain ⟨hNormal, hIff⟩ := isNormal_normalize_and_iff Grammar.extendsMermaid_withNotNull t
  refine ⟨Grammar.extendsMermaid_withNotNull, hNew, hNew ▸ hNormal, fun hText => ?_, hIff⟩
  exact absurd (hNew.symm.trans (hIff.mpr hText)) (by decide)

end ErDiagram
