import ErDiagram.Proofs.Repair.Account
import ErDiagram.Proofs.Repair.Seam

/-!
Blank lines and directives. Such a line stays as it is and leaves the state as it found it, so a run over
a text with the line inserted has one more step and is otherwise the run over the text without it.
-/

namespace ErDiagram

/-- Whether a line with the body is blank or a directive. -/
def Grammar.Transparent (g : Grammar) (body : Text) : Prop :=
  body.isAllBlank = true ∨ g.isDirective (splitIndent body).2 = true

theorem splitIndent_of_blank {body : Text} (h : body.isAllBlank = true) :
    splitIndent body = (body, []) := by
  have hSplit := @splitIndent_append body [] h nofun
  rwa [List.append_nil] at hSplit

/-- A carriage return at the end bears on neither. -/
theorem Grammar.Transparent.of_carriage {g : Grammar} (hg : g.WellFormed) {body : Text}
    (h : g.Transparent (body ++ ['\r'])) : g.Transparent body := by
  cases hBlank : body.isAllBlank with
  | true => exact Or.inl hBlank
  | false =>
      obtain ⟨hBody, hIndent, hHead⟩ := splitIndent_spec body
      have hne : (splitIndent body).2 ≠ [] := fun hNil => by
        rw [hNil, List.append_nil] at hBody
        rw [hBody, hIndent] at hBlank
        cases hBlank
      have hSplit : splitIndent (body ++ ['\r']) =
          ((splitIndent body).1, (splitIndent body).2 ++ ['\r']) := by
        have hParts := @splitIndent_append _ ((splitIndent body).2 ++ ['\r']) hIndent
          (by rwa [List.head?_append_of_ne_nil _ hne])
        rwa [← List.append_assoc, ← hBody] at hParts
      rcases h with hAll | hDirective
      · rw [Text.isAllBlank_append, hBlank] at hAll
        cases hAll
      · rw [hSplit] at hDirective
        refine Or.inr (Decidable.byContradiction fun hNot => ?_)
        rw [hg.isDirective_append ⟨'\r', rfl, rfl⟩ (Bool.eq_false_iff.mpr hNot)] at hDirective
        cases hDirective

namespace Repair

section Step

variable {g : Grammar} {state : BlockState} {line : Line}

/-- Lines that are passed through and attributes without parts stay as they are. -/
theorem step_idle {kind : LineKind} {size : Nat}
    (hReading : readLine g state line.content = ⟨kind, size, false⟩)
    (hIdle : kind.isPassThrough = true ∨ kind = .entityAttribute {}) :
    let step := Step.of g state line
    step.newLine = line ∧ step.tally = {} ∧ step.after = state := by
  have hSettled : Settled g (Sighting.of g state line.content).code kind := by
    rcases hIdle with hPass | rfl
    · exact settled_of_passThrough hPass
    · exact settled_of_length_le (Nat.zero_le 1)
  have hKind : (Sighting.of g state line.content).reading.kind = kind :=
    congrArg Reading.kind hReading
  have hClean : (Sighting.of g state line.content).Clean g :=
    ⟨hKind.symm ▸ hSettled, fun _ => congrArg Reading.hasComment hReading⟩
  obtain ⟨hLine, hTally⟩ := unchanged_of_clean hClean
  refine ⟨hLine, hTally, ?_⟩
  change state.next _ (readLine g state line.content).kind = state
  rw [hReading]
  rcases hIdle with hPass | rfl
  · cases kind with
    | directive => rfl
    | other => rfl
    | entityHeader name => cases hPass
    | entityFooter => cases hPass
    | entityAttribute parts => rfl
    | relationship parts => cases hPass
  · rfl

/-- On a line without content there is nothing to be read. -/
theorem readLine_nil (g : Grammar) (state : BlockState) :
    ∃ kind size, readLine g state [] = ⟨kind, size, false⟩ ∧
      (kind.isPassThrough = true ∨ kind = .entityAttribute {}) := by
  cases hDirective : g.isDirective [] with
  | true => exact ⟨_, _, readLine_of_directive hDirective, Or.inl rfl⟩
  | false =>
      refine ⟨_, _, readLine_of_not_directive hDirective, ?_⟩
      change (Reading.kindOf g state.isInside []).isPassThrough = true ∨
        Reading.kindOf g state.isInside [] = .entityAttribute {}
      generalize hKind : Reading.kindOf g state.isInside [] = kind
      cases hKind ▸ Reading.found_kindOf g state.isInside [] with
      | entityHeader hHeader =>
          obtain ⟨name, rest, hText, hName, -⟩ := Reading.exists_of_header? hHeader
          exact absurd (List.append_eq_nil_iff.mp hText.symm).1 hName
      | relationship hParts hWord =>
          obtain ⟨s, hValid, hText, -⟩ := Reading.exists_valid hParts
          exact absurd hText (by simp [RelationshipLayout.text_eq, hValid.left.ne_nil])
      | entityFooter hInside hBrace => cases hBrace
      | entityAttribute hInside hBrace hRelationship hHeader => exact Or.inr rfl
      | other hOutside hRelationship hHeader => exact Or.inl rfl

/-- A transparent line stays as it is, counts nothing and leaves the state as it is. -/
theorem step_transparent (h : g.Transparent line.body) (state : BlockState) :
    let step := Step.of g state line
    step.newLine = line ∧ step.tally = {} ∧ step.after = state := by
  rcases h with hBlank | hDirective
  · have hContent : line.content = [] := congrArg Prod.snd (splitIndent_of_blank hBlank)
    obtain ⟨kind, size, hReading, hIdle⟩ := readLine_nil g state
    exact step_idle (hContent ▸ hReading) hIdle
  · exact step_idle (readLine_of_directive hDirective) (Or.inl rfl)

end Step

variable {g : Grammar}

/-- A further step that changes nothing moves the numbers of the changed lines behind it by one. -/
theorem changedFrom_insert (front back : List Step) {step : Step} (hSame : step.isChanged = false) :
    changedFrom 1 (front ++ step :: back) =
      (changedFrom 1 (front ++ back)).map fun n => if n ≤ front.length then n else n + 1 := by
  -- No number of the front is above its length, and every number of the back is.
  have hFront : changedFrom 1 front =
      (changedFrom 1 front).map fun n => if n ≤ front.length then n else n + 1 := by
    conv_lhs => rw [← List.map_id (changedFrom 1 front)]
    refine List.map_congr_left fun n hn => ?_
    obtain ⟨i, other, rfl, hOther, -⟩ := mem_changedFrom.mp hn
    have hIndex := (List.getElem?_eq_some_iff.mp hOther).1
    rw [if_pos (by omega)]
    rfl
  have hBack : changedFrom (1 + front.length + 1) back =
      (changedFrom (1 + front.length) back).map fun n => if n ≤ front.length then n else n + 1 := by
    rw [changedFrom_add]
    refine List.map_congr_left fun n hn => ?_
    obtain ⟨i, other, rfl, -, -⟩ := mem_changedFrom.mp hn
    rw [if_neg (by omega)]
  rw [changedFrom_append, changedFrom_append, changedFrom, hSame, if_neg Bool.false_ne_true,
    List.map_append, ← hFront, hBack]

/-- All that a line between two parts of a text brings to a run: one step, which leaves the line and the
state as they are. -/
structure Inserted (g : Grammar) (a inserted b : Text) : Prop where
  run : ∃ front step back, repairRun g (a ++ b) = front ++ back ∧
    repairRun g (a ++ (inserted ++ b)) = front ++ step :: back ∧
    front.length = (splitLines a).length ∧ step.newLine.text = inserted ∧ step.after = step.before
  output : ∃ part, normalize g (a ++ b) = normalize g a ++ part ∧
    normalize g (a ++ (inserted ++ b)) = normalize g a ++ (inserted ++ part)
  finalState : finalState g .outside (splitLines (a ++ (inserted ++ b))) =
    finalState g .outside (splitLines (a ++ b))
  linesTotal : (repairReport g (a ++ (inserted ++ b))).linesTotal =
    (repairReport g (a ++ b)).linesTotal + 1
  changedLines : (repairReport g (a ++ (inserted ++ b))).changedLines =
    (repairReport g (a ++ b)).changedLines.map fun n =>
      if n ≤ (splitLines a).length then n else n + 1
  tally : (repairReport g (a ++ (inserted ++ b))).tally = (repairReport g (a ++ b)).tally

/-- A transparent line in front of a line feed can be inserted anywhere. -/
theorem inserted_of_transparent {a inserted : Text} (ha : a.EndsLine) (b : Text) {line : Line}
    (hEnds : inserted.EndsLine) (hLine : splitLines inserted = [line])
    (hTransparent : g.Transparent line.body) : Inserted g a inserted b := by
  have hText : line.text = inserted := by
    rw [← joinLines_splitLines inserted, hLine]
    exact (List.append_nil _).symm
  generalize hState : Repair.finalState g .outside (splitLines a) = state
  obtain ⟨hSame, hTally, hAfter⟩ := step_transparent hTransparent state
  have hOld : repairRun g (a ++ b) = repairRun g a ++ steps g state (splitLines b) := by
    rw [repairRun_append ha, hState]
  have hNew : repairRun g (a ++ (inserted ++ b)) =
      repairRun g a ++ Step.of g state line :: steps g state (splitLines b) := by
    rw [repairRun_append ha, hState, splitLines_append hEnds, hLine, List.singleton_append,
      steps_cons, hAfter]
  have hLength := length_repairRun g a
  refine {
    run := ⟨_, _, _, hOld, hNew, hLength, (congrArg Line.text hSame).trans hText, hAfter⟩
    output := ⟨Repair.output (steps g state (splitLines b)), ?_, ?_⟩
    finalState := ?_
    linesTotal := ?_
    changedLines := ?_
    tally := ?_ }
  · rw [normalize, hOld, output_append]
    rfl
  · rw [normalize, hNew, output_append, Repair.output, Repair.output, List.map_cons, hSame,
      joinLines_cons, hText]
    rfl
  · have hStates (rest : List Line) : Repair.finalState g .outside (splitLines a ++ rest) =
        Repair.finalState g state rest := by
      rw [finalState_append, hState]
    rw [splitLines_append ha, splitLines_append ha, splitLines_append hEnds, hLine, hStates, hStates]
    exact congrArg (Repair.finalState g · (splitLines b)) hAfter
  · rw [repairReport, repairReport, report, report, hOld, hNew]
    simp only [List.length_append, List.length_cons]
    rfl
  · rw [repairReport, repairReport, report, report, hOld, hNew, ← hLength]
    exact changedFrom_insert _ _ (Step.isChanged_eq_false_iff.mpr hSame)
  · rw [repairReport, repairReport, report, report, hOld, hNew]
    simp only [List.map_append, List.map_cons, Tally.sum_append, Tally.sum, hTally, Tally.zero_add]

end Repair

/-- A blank line or a directive can be inserted between any two lines of a text. It changes neither the
states nor what is done to any other line, it is left as it is, and in the report only the numbers of the
lines behind it move. -/
theorem repairRun_insert {g : Grammar} (hg : g.IsBuilt) {a : Text} (ha : a.EndsLine) (b : Text)
    {body : Text} {ending : Ending} (hNewline : '\n' ∉ body) (hEnding : ending ≠ .endOfText)
    (hBody : g.Transparent body) : Repair.Inserted g a (Line.text ⟨body, ending⟩) b := by
  obtain ⟨line, hLine, hCarriage⟩ := exists_line_of_body hNewline hEnding
  have hTransparent : g.Transparent line.body := by
    rcases hCarriage with hSame | hSame
    · exact hSame ▸ hBody
    · exact .of_carriage hg.wellFormed (hSame ▸ hBody)
  exact Repair.inserted_of_transparent ha b (Line.endsLine_text hEnding) hLine hTransparent

theorem repairRun_insert_directive :
    let a := "A-B \x7b // c\n".toList
    let b := "int a b\n\x7d".toList
    let body : Text := " %% \x7d A-B ||--o\x7b C : is a // c".toList
    let inserted := Line.text ⟨body, .crlf⟩
    Grammar.mermaid.IsBuilt ∧ Text.EndsLine a ∧ '\n' ∉ body ∧ Ending.crlf ≠ .endOfText ∧
      Grammar.mermaid.Transparent body ∧ Repair.Inserted Grammar.mermaid a inserted b ∧
      normalize Grammar.mermaid (a ++ (inserted ++ b)) =
        "A_B \x7b\n".toList ++ (inserted ++ "int ab\n\x7d".toList) ∧
      (repairReport Grammar.mermaid (a ++ (inserted ++ b))).changedLines = [1, 3] := by
  intro a b body inserted
  have hLine : Text.EndsLine a := Or.inr (by decide)
  have hNewline : '\n' ∉ body := by decide
  have hBody : Grammar.mermaid.Transparent body := Or.inr (by decide)
  have hEnding : Ending.crlf ≠ .endOfText := nofun
  have hInserted := repairRun_insert (Or.inl rfl) hLine b hNewline hEnding hBody
  have hAlone : (repairReport Grammar.mermaid (a ++ b)).changedLines = [1, 2] := by decide +kernel
  refine ⟨Or.inl rfl, hLine, hNewline, hEnding, hBody, hInserted, by decide +kernel, ?_⟩
  rw [hInserted.changedLines, hAlone]
  decide

end ErDiagram
