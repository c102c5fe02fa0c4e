import ErDiagram.Proofs.Detection
import ErDiagram.Proofs.Repair.Transparent

/-!
Repair and detection. A repair makes nothing look like an ER diagram that did not look like one: an
operator on a repaired line stood on the line before, and the first line with content keeps the keyword,
or stays without it. The text in front of an operator or of a brace changes at most its hyphens, and no
comment starts further left.
-/

namespace ErDiagram

namespace Detection

variable {g : Grammar}

/-- Lines are skipped in the search for the keyword exactly if a repair passes over them. -/
theorem isSkipped_iff_transparent (hg : g.WellFormed) {body : Text} :
    IsSkipped g body ↔ g.Transparent body := by
  have hTrim : body.trim = Text.trimEnd (splitIndent body).2 := rfl
  rw [IsSkipped, Grammar.Transparent, Text.trim_eq_nil_iff, hTrim, hg.isDirective_trimEnd]

theorem startsWithKeyword_of_underscored {old new : Text} (h : Underscored old new) :
    startsWithKeyword new = startsWithKeyword old :=
  h.foldCase.isPrefixOf_eq (by decide) (by decide)

end Detection

namespace Repair

open Detection

variable {g : Grammar} {code : Text} {kind : LineKind}

/-- A repair brings no operator into a code. -/
theorem hasOperator_newCode (hg : g.WellFormed) (hInert : g.Inert) (h : Laid g code kind)
    (hHead : ∀ c, code.head? = some c → isBlank c = false) (hNone : g.hasOperator code = false) :
    g.hasOperator (newCode g code kind) = false := by
  cases h with
  | entityHeader name rest =>
      rw [newCode_entityHeader]
      exact hInert.hasOperator_of_underscored
        ((EntityName.underscored_repair name).append (.refl rest)) hNone
  | entityAttribute =>
      rcases attribute_cases g hHead with hSettled | ⟨s, joined, hSplits, rfl, hEdits, hKeeps, -⟩
      · rwa [newCode_of_settled hSettled]
      · simp only [keepsPieces, Bool.or_eq_false_iff] at hKeeps
        rw [newCode_joined hEdits]
        rw [Grammar.hasOperator_eq_false_iff] at hNone ⊢
        rintro o ho ⟨x, y, hText⟩
        -- The joined name has none, so the operator stands in front of it or behind it.
        rcases hSplits.operator_cases hg hKeeps.1.1 ho hText with ⟨z, hFront, -⟩ | ⟨z, -, hRest⟩
        · exact hNone o ho ⟨x, z ++ (s.name ++ s.rest), by simp [NamePlace.text, hFront]⟩
        · exact hNone o ho ⟨s.front ++ s.name ++ z, y, by simp [NamePlace.text, hRest]⟩
  | @relationship s hValid =>
      have hOperator : s.operator <:+: s.text := ⟨_, _, s.text_eq_operator.symm⟩
      exact absurd hOperator (Grammar.hasOperator_eq_false_iff.mp hNone _ hValid.operator.mem)
  | idle hIdle =>
      rwa [newCode_of_settled (by rw [Settled, hIdle]; rfl)]

/-- A repair brings no operator into a line. -/
theorem hasOperator_newLine (hg : g.WellFormed) (hInert : g.Inert) (state : BlockState) {line : Line}
    (hNone : g.hasOperator line.body = false) :
    g.hasOperator (Step.of g state line).newLine.body = false := by
  cases hPass : (readLine g state line.content).kind.isPassThrough with
  | true =>
      have hBody : (Step.of g state line).newLine.body = line.body := newBody_of_passThrough hPass
      rwa [hBody]
  | false =>
      obtain ⟨new, hNew, -, -, hBody⟩ := exists_newCode hPass
      obtain ⟨hLine, hIndent, -⟩ := splitIndent_spec line.body
      have hCode : (readLine g state line.content).code line.content <:+: line.body := by
        rw [hLine]
        exact (code_prefix_content _ _).isInfix.trans (List.suffix_append _ _).isInfix
      have hNewNone : g.hasOperator new = false := by
        rw [hNew]
        exact hasOperator_newCode hg hInert (laid_readLine g state line.content) (fun _ => head_code)
          (Grammar.hasOperator_eq_false_of_infix hCode hNone)
      have hWhole := hg.hasOperator_blank_append hIndent hNewNone
      rw [hBody]
      split
      · exact Grammar.hasOperator_eq_false_of_infix (Text.trimEnd_prefix _).isInfix hWhole
      · exact hWhole

/-- Outside of any block a repaired code keeps its text up to a brace or an operator, apart from its
hyphens. -/
theorem exists_front (hg : g.IsMermaid) (h : Reading.Reads g false code kind)
    (hPass : kind.isPassThrough = false) :
    ∃ (a a' b b' : Text) (c : Char), code = a ++ c :: b ∧ newCode g code kind = a' ++ c :: b' ∧
      Underscored a a' ∧ c.toLower ∉ keyword := by
  cases h with
  | @entityHeader s hValid =>
      refine ⟨s.name ++ s.gap ++ s.bracketed, EntityName.repair s.name ++ s.gap ++ s.bracketed, s.trail,
        s.trail, '\x7b', rfl, newCode_header s, ?_, by decide⟩
      exact ((EntityName.underscored_repair s.name).append (.refl s.gap)).append (.refl s.bracketed)
  | @relationship s hValid hWord =>
      obtain ⟨c, rest, hOperator, hc⟩ : ∃ c rest, s.operator = c :: rest ∧ c.toLower ∉ keyword := by
        rcases Grammar.head_of_mem_standardOperators _
          ((hg.mem_operators _).mp hValid.operator.mem) with hBar | hBrace
        · obtain ⟨rest, hOperator⟩ := List.head?_eq_some_iff.mp hBar
          exact ⟨'|', rest, hOperator, by decide⟩
        · obtain ⟨rest, hOperator⟩ := List.head?_eq_some_iff.mp hBrace
          exact ⟨'\x7d', rest, hOperator, by decide⟩
      have hText (r : RelationshipLayout) (hr : r.operator = c :: rest) :
          ∃ b, r.text = r.beforeOperator ++ c :: b :=
        ⟨_, by rw [r.text_eq_operator, hr, List.append_assoc, List.cons_append]⟩
      obtain ⟨b, hOld⟩ := hText s hOperator
      obtain ⟨b', hNew⟩ := hText (s.repaired g) hOperator
      refine ⟨s.beforeOperator, (s.repaired g).beforeOperator, b, b', c, hOld, ?_, ?_, hc⟩
      · rw [newCode_relationship, hNew]
      · exact ((Underscored.refl s.lead).append (EntityName.underscored_repair s.left)).append
          (.refl s.leftGap)
  | entityFooter hInside hBrace => cases hInside
  | entityAttribute hInside hBrace hRelationship hHeader => cases hInside
  | other hOutside hRelationship hHeader => cases hPass

theorem startsWithKeyword_newCode (hg : g.IsMermaid) (h : Reading.Reads g false code kind)
    (hPass : kind.isPassThrough = false) (cut : Text) :
    newCode g code kind ≠ [] ∧
      startsWithKeyword (newCode g code kind) = startsWithKeyword (code ++ cut) := by
  obtain ⟨a, a', b, b', c, rfl, hNew, hFront, hc⟩ := exists_front hg h hPass
  rw [hNew]
  refine ⟨by simp, ?_⟩
  rw [List.append_assoc, List.cons_append, startsWithKeyword_append_cons hc,
    startsWithKeyword_append_cons hc, startsWithKeyword_of_underscored hFront]

/-- Outside of any block a line with content keeps content, and what it says about the keyword. -/
theorem startsWithKeyword_newLine (hg : g.IsMermaid) {line : Line} (h : ¬ IsSkipped g line.body) :
    let new := (Step.of g .outside line).newLine
    ¬ IsSkipped g new.body ∧ startsWithKeyword new.body.trim = startsWithKeyword line.body.trim := by
  intro new
  cases hPass : (readLine g .outside line.content).kind.isPassThrough with
  | true =>
      have hBody : new.body = line.body := newBody_of_passThrough hPass
      rw [hBody]
      exact ⟨h, rfl⟩
  | false =>
      have hDirective := not_directive_of_kind hPass
      obtain ⟨code, hCode, -, hContent, -⟩ := exists_newCode hPass
      obtain ⟨cut, hCut⟩ := code_prefix_content (readLine g .outside line.content) line.content
      have hReads := @reads_readLine g .outside _ hg.wellFormed hDirective
      obtain ⟨hNe, hKeyword⟩ := startsWithKeyword_newCode hg hReads hPass cut
      have hHead : ∀ c, line.content.head? = some c → isBlank c = false :=
        (splitIndent_spec line.body).2.2
      have hStable := @stable_of_readLine g .outside _ hg.wellFormed hg.inert hHead hDirective
      have hNot : g.isDirective code = false := hCode ▸ hStable.directive
      rw [← hCode] at hNe hKeyword
      have hTrim (other : Line) : other.body.trim = Text.trimEnd other.content := rfl
      refine ⟨?_, ?_⟩
      · rw [isSkipped_iff_transparent hg.wellFormed]
        rintro (hBlank | hNew)
        · have hNil : new.content = [] := congrArg Prod.snd (splitIndent_of_blank hBlank)
          exact hNe (hContent.symm.trans hNil)
        · have hFound : g.isDirective new.content = true := hNew
          rw [hContent, hNot] at hFound
          cases hFound
      · rw [hTrim, hTrim, startsWithKeyword_trimEnd, startsWithKeyword_trimEnd, hContent, hKeyword, hCut]

/-- The first line with content of the lines that a run leaves. -/
theorem leading?_newLines (hg : g.IsMermaid) (lines : List Line) :
    (leading? g ((steps g .outside lines).map fun step => step.newLine.body)).any startsWithKeyword =
      (leading? g (lines.map Line.body)).any startsWithKeyword := by
  induction lines with
  | nil => rfl
  | cons line rest ih =>
      rw [steps_cons, List.map_cons, List.map_cons]
      by_cases hSkipped : IsSkipped g line.body
      · obtain ⟨hLine, -, hAfter⟩ :=
          step_transparent ((isSkipped_iff_transparent hg.wellFormed).mp hSkipped) .outside
        rw [hLine, hAfter, leading?_cons_of_skipped hSkipped, leading?_cons_of_skipped hSkipped, ih]
      · obtain ⟨hNew, hKeyword⟩ := startsWithKeyword_newLine hg hSkipped
        rw [leading?_cons_of_not_skipped hNew, leading?_cons_of_not_skipped hSkipped, Option.any_some,
          Option.any_some, hKeyword]

theorem confidence_normalize_eq_keyword_iff (hg : g.IsMermaid) (t : Text) :
    confidence g (normalize g t) = .keyword ↔ confidence g t = .keyword := by
  obtain ⟨dropped, hLines, hDropped⟩ := newLines_eq g t
  have hNone : leading? g (dropped.map Line.body) = none := by
    rcases hDropped with rfl | rfl
    · rfl
    · exact leading?_cons_of_skipped (Or.inl rfl) []
  have hBodies : (repairRun g t).map (fun step => step.newLine.body) =
      bodies (normalize g t) ++ dropped.map Line.body := by
    rw [bodies, ← List.map_append, ← hLines, List.map_map]
    rfl
  have hRun := leading?_newLines hg (splitLines t)
  change (leading? g ((repairRun g t).map _)).any _ = (leading? g (bodies t)).any _ at hRun
  rw [hBodies, leading?_append, hNone, Option.or_none] at hRun
  rw [confidence_eq_keyword_iff, confidence_eq_keyword_iff, hRun]

/-- A line of a repaired text with an operator comes from a line with one. -/
theorem exists_step_of_operator (hg : g.WellFormed) (hInert : g.Inert) {t body : Text} {i : Nat}
    (h : (bodies (normalize g t))[i]? = some body) (hOperator : g.hasOperator body = true) :
    ∃ step, (repairRun g t)[i]? = some step ∧ step.newLine.body = body ∧
      (bodies t)[i]? = some step.line.body ∧ g.hasOperator step.line.body = true := by
  rw [bodies, List.getElem?_map, Option.map_eq_some_iff] at h
  obtain ⟨newLine, hNew, rfl⟩ := h
  obtain ⟨step, hStep, rfl, hOld⟩ := exists_step_of_line hNew
  obtain ⟨before, line, rfl⟩ := exists_of_mem_steps (List.mem_of_getElem? hStep)
  refine ⟨_, hStep, rfl, ?_, eq_true_of_ne_false fun hNone => ?_⟩
  · rw [bodies, List.getElem?_map, hOld]
    rfl
  · have hLine : g.hasOperator line.body = false := hNone
    rw [hasOperator_newLine hg hInert before hLine] at hOperator
    cases hOperator

theorem hasRelationship_of_normalize (hg : g.WellFormed) (hInert : g.Inert) {t : Text}
    (h : hasRelationship g (normalize g t) = true) : hasRelationship g t = true := by
  obtain ⟨body, hMem, hOperator⟩ := List.any_eq_true.mp h
  obtain ⟨i, hIndex⟩ := List.mem_iff_getElem?.mp hMem
  obtain ⟨step, -, -, hOld, hStep⟩ := exists_step_of_operator hg hInert hIndex hOperator
  exact List.any_eq_true.mpr ⟨_, List.mem_of_getElem? hOld, hStep⟩

end Repair

open Detection

/-- A repair makes up nothing that speaks for an ER diagram. A line of the repaired text with an operator
comes from a line with one, and the keyword is found in the repaired text exactly if it is found in the
text. So a text is detected if its repair is. -/
theorem detection_normalize {g : Grammar} (hg : g.ExtendsMermaid) (t : Text) :
    (∀ (i : Nat) (body : Text), (bodies (normalize g t))[i]? = some body → g.hasOperator body = true →
      ∃ step, (repairRun g t)[i]? = some step ∧ step.newLine.body = body ∧
        (bodies t)[i]? = some step.line.body ∧ g.hasOperator step.line.body = true) ∧
    (confidence g (normalize g t) = .keyword ↔ confidence g t = .keyword) ∧
    (isErDiagram g (normalize g t) = true → isErDiagram g t = true) := by
  have hWellFormed := hg.isMermaid.wellFormed
  have hInert := hg.isMermaid.inert
  have hKeyword := Repair.confidence_normalize_eq_keyword_iff hg.isMermaid t
  refine ⟨fun i body => Repair.exists_step_of_operator hWellFormed hInert, hKeyword, ?_⟩
  rw [isErDiagram_iff, isErDiagram_iff, hKeyword]
  exact Or.imp_right (Repair.hasRelationship_of_normalize hWellFormed hInert)

theorem detection_normalize_withNotNull :
    let g := Grammar.withNotNull
    let t := "erDiagram\nA-B \x7b // c\n int || --o\x7b x\nA-B ||--o\x7b C : is a".toList
    g.ExtendsMermaid ∧
      (∃ step, (repairRun g t)[3]? = some step ∧
        step.newLine.body = "A_B ||--o\x7b C : isA".toList ∧
        (bodies t)[3]? = some step.line.body ∧ g.hasOperator step.line.body = true) ∧
      confidence g (normalize g t) = .keyword ∧ isErDiagram g t = true := by
  intro g t
  have hg : g.ExtendsMermaid := Grammar.extendsMermaid_withNotNull
  obtain ⟨hLines, hKeyword, hDetected⟩ := detection_normalize hg t
  have hFound : confidence g (normalize g t) = .keyword := hKeyword.mpr (by decide)
  exact ⟨hg, hLines 3 _ (by decide +kernel) (by decide), hFound,
    hDetected (isErDiagram_iff.mpr (Or.inl hFound))⟩

end ErDiagram
