import ErDiagram.Proofs.Repair.Recovery
import ErDiagram.Proofs.Token

/-!
The left side of a relationship inside a block whose footer is missing. The relationship is recovered
exactly if its left side has no blank. Such a left side is a single token, but not every single token
has no blank: quotes hold spaces and tabs together, and no other blank separates tokens.
-/

namespace ErDiagram

namespace Reading

variable {g : Grammar} {code : Text} {parts : RelationshipParts}

/-- A header has no operator, so no code is both. -/
theorem header?_of_relationship (hg : g.WellFormed) (h : relationship? g code = some parts) :
    header? g code = none := by
  rw [Option.eq_none_iff_forall_ne_some]
  intro name hName
  obtain ⟨s, hValid, rfl, -⟩ := exists_valid_header hg hName
  rw [relationship?_eq_none hValid.operator] at h
  cases h

/-- What a relationship is read as inside a block. -/
theorem kindOf_inside (hg : g.WellFormed) (h : kindOf g false code = .relationship parts) :
    kindOf g true code =
      if (code.slice parts.left).hasBlank then .entityAttribute (attributeParts g code)
      else .relationship parts := by
  cases (reads_iff hg).mpr h with
  | @relationship s hValid hOutside =>
      rw [s.slice_left]
      cases hBlank : s.left.hasBlank with
      | false => exact kindOf_eq_of_reads (.relationship hValid fun _ => hBlank)
      | true =>
          -- The operator keeps the line from being a header, so nothing is left but an attribute.
          have hParts := relationship?_of_valid hValid
          have hClosing : closingRelationship? g s.text = none := by
            rw [closingRelationship?, hParts]
            simp [s.slice_left, hBlank]
          exact kindOf_eq_of_reads
            (.entityAttribute rfl hValid.trim_ne hClosing (header?_of_relationship hg hParts))

theorem tight_left (hg : g.WellFormed) (h : kindOf g false code = .relationship parts) :
    Text.Tight (code.slice parts.left) := by
  cases (reads_iff hg).mpr h with
  | @relationship s hValid hOutside => exact s.slice_left.symm ▸ hValid.left

end Reading

/-- A tight text without blanks is a single token. The converse holds for a text without quotes whose
blanks all separate tokens. -/
theorem length_tokenize_of_tight {t : Text} (hTight : Text.Tight t) :
    (t.hasBlank = false → (tokenize t).length = 1) ∧
      ((tokenize t).length = 1 → '"' ∉ t → (∀ c ∈ t, isBlank c = true → isGap c = true) →
        t.hasBlank = false) := by
  refine ⟨fun hBlank => ?_, fun hSingle hQuote hGaps => ?_⟩
  · exact Token.length_tokenize_of_isSolid hTight.ne_nil (Token.isSolid_of_hasBlank hBlank)
  · have hSolid := Token.isSolid_of_length_tokenize hTight hSingle
    rw [Text.hasBlank_eq_false_iff]
    intro c hc
    apply Bool.eq_false_iff.mpr
    intro hBlank
    have hNot := Token.not_isGap_of_isSolid hQuote hSolid c hc
    rw [hGaps c hc hBlank] at hNot
    cases hNot

/-- A line that is a relationship outside of any block is the same relationship inside one if its left
side has no blank; then it ends the block, and the lines behind it are read as they are read without the
block. If its left side has a blank, it is an attribute of the block. So a left side that is a single
token is recovered where it has no quotes and no blanks but spaces and tabs. -/
theorem relationship_inside {g : Grammar} (hg : g.IsBuilt) {content : Text}
    {parts : RelationshipParts} (h : (readLine g .outside content).kind = .relationship parts)
    (entity : Text) (rest : List Text) :
    let code := (readLine g .outside content).code content
    let left := code.slice parts.left
    (left.hasBlank = false →
      readLine g (.inside entity) content = readLine g .outside content ∧
        (BlockState.inside entity).after g content = .outside ∧
        (sightings g (.inside entity) (content :: rest)).map Sighting.reading =
          (sightings g .outside (content :: rest)).map Sighting.reading) ∧
      (left.hasBlank = true →
        (readLine g (.inside entity) content).kind =
            .entityAttribute (Reading.attributeParts g code) ∧
          (BlockState.inside entity).after g content = .inside entity) ∧
      (left.hasBlank = false → (tokenize left).length = 1) ∧
      ((tokenize left).length = 1 → '"' ∉ left →
        (∀ c ∈ left, isBlank c = true → isGap c = true) → left.hasBlank = false) := by
  intro code left
  have hDirective : g.isDirective content = false := not_directive_of_kind (by rw [h]; rfl)
  have hCode : code = Comment.strip g.commentMarker content := code_of_not_directive hDirective
  have hOutside : Reading.kindOf g false code = .relationship parts := by
    rw [hCode, ← h, kind_of_not_directive hDirective]
    rfl
  have hInside : (readLine g (.inside entity) content).kind =
      if left.hasBlank then .entityAttribute (Reading.attributeParts g code)
      else .relationship parts := by
    rw [kind_of_not_directive hDirective, ← hCode]
    exact Reading.kindOf_inside hg.wellFormed hOutside
  refine ⟨fun hBlank => ?_, fun hBlank => ?_,
    length_tokenize_of_tight (Reading.tight_left hg.wellFormed hOutside)⟩
  · rw [hBlank, if_neg Bool.false_ne_true] at hInside
    have hShows : (readLine g (.inside entity) content).kind.showsUnclosed = true := by
      rw [hInside]
      rfl
    have hReading := readLine_outside hg.wellFormed hShows
    have hAfter := BlockState.after_outside hg.wellFormed hShows
    have hEnds : BlockState.outside.after g content = .outside := by
      rw [BlockState.after, h]
      rfl
    refine ⟨hReading.symm, hAfter ▸ hEnds, ?_⟩
    rw [sightings, sightings, List.map_cons, List.map_cons]
    simp only [Sighting.of, hReading, hAfter]
  · rw [hBlank, if_pos rfl] at hInside
    refine ⟨hInside, ?_⟩
    rw [BlockState.after, hInside]
    rfl

theorem relationship_inside_word :
    let content := "A-B ||--o\x7b C : is a // x".toList
    let parts : RelationshipParts := ⟨⟨0, 3⟩, ⟨4, 10⟩, ⟨11, 12⟩, some ⟨15, 19⟩⟩
    let rest := ["int a b".toList]
    (readLine Grammar.mermaid .outside content).kind = .relationship parts ∧
      readLine Grammar.mermaid (.inside "D".toList) content =
        readLine Grammar.mermaid .outside content ∧
      (BlockState.inside "D".toList).after Grammar.mermaid content = .outside ∧
      (sightings Grammar.mermaid (.inside "D".toList) (content :: rest)).map Sighting.reading =
        (sightings Grammar.mermaid .outside (content :: rest)).map Sighting.reading := by
  intro content parts rest
  have hKind : (readLine Grammar.mermaid .outside content).kind = .relationship parts := by
    decide +kernel
  have hWord : (((readLine Grammar.mermaid .outside content).code content).slice
      parts.left).hasBlank = false := by decide +kernel
  obtain ⟨hReading, hAfter, hRest⟩ :=
    (relationship_inside (Or.inl rfl) hKind "D".toList rest).1 hWord
  exact ⟨hKind, hReading, hAfter, hRest⟩

/-- A quoted name is a single token, with or without the blank behind it. Yet inside a block the
relationship is read as an attribute, and the block stays open. -/
theorem relationship_inside_quoted :
    let content : Text := "\"C D\" ||--o\x7b E-F : is a".toList
    let parts : RelationshipParts := ⟨⟨0, 5⟩, ⟨6, 12⟩, ⟨13, 16⟩, some ⟨19, 23⟩⟩
    (readLine Grammar.mermaid .outside content).kind = .relationship parts ∧
      tokenize (content.slice parts.left) = [⟨"\"C D\"".toList, ⟨0, 5⟩⟩] ∧
      tokenize (content.takeBytes parts.operator.start) = [⟨"\"C D\"".toList, ⟨0, 5⟩⟩] ∧
      (readLine Grammar.mermaid (.inside "A".toList) content).kind =
        .entityAttribute {
          dataType? := some ⟨0, 5⟩
          name := [⟨6, 12⟩, ⟨13, 16⟩, ⟨17, 18⟩, ⟨19, 21⟩, ⟨22, 23⟩] } ∧
      (BlockState.inside "A".toList).after Grammar.mermaid content = .inside "A".toList := by
  decide +kernel

end ErDiagram
