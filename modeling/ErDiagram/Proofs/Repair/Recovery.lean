import ErDiagram.Proofs.Repair.Seam

/-!
Recovery from a missing footer. A line that shows that the block around it has no footer is read as it
is read outside of any block, so a text with such a line is repaired as if the footer stood in front of
the line.
-/

namespace ErDiagram

/-- Whether a line of the kind, inside a block, shows that the block has no footer. -/
def LineKind.showsUnclosed : LineKind → Bool
  | .entityHeader _ => true
  | .relationship _ => true
  | _ => false

variable {g : Grammar}

/-- Inside a block other tests come first, but they all fail on such a line. -/
theorem Reading.kindOf_outside (hg : g.WellFormed) {code : Text}
    (h : (kindOf g true code).showsUnclosed = true) : kindOf g false code = kindOf g true code := by
  generalize hKind : kindOf g true code = kind at h
  cases (reads_iff hg).mpr hKind with
  | entityHeader hValid => exact (reads_iff hg).mp (.entityHeader hValid)
  | relationship hValid hWord => exact (reads_iff hg).mp (.relationship hValid nofun)
  | entityFooter hInside hBrace => cases h
  | entityAttribute hInside hBrace hRelationship hHeader => cases h
  | other hOutside hRelationship hHeader => cases h

theorem readLine_outside (hg : g.WellFormed) {entity content : Text}
    (h : (readLine g (.inside entity) content).kind.showsUnclosed = true) :
    readLine g .outside content = readLine g (.inside entity) content := by
  cases hDirective : g.isDirective content with
  | true => rw [readLine_of_directive hDirective, readLine_of_directive hDirective]
  | false =>
      rw [kind_of_not_directive hDirective] at h
      have hKind := Reading.kindOf_outside hg h
      rw [readLine_of_not_directive hDirective, readLine_of_not_directive hDirective]
      exact congrArg (Reading.mk · _ _) hKind

/-- A line that opens a block or ends one leaves the same state wherever it stands. -/
theorem BlockState.next_of_showsUnclosed {state other : BlockState} {code : Text} {kind : LineKind}
    (h : kind.showsUnclosed = true) : state.next code kind = other.next code kind := by
  cases kind with
  | entityHeader name => rfl
  | relationship parts => rfl
  | entityFooter => cases h
  | entityAttribute parts => cases h
  | directive => cases h
  | other => cases h

theorem BlockState.after_outside (hg : g.WellFormed) {entity content : Text}
    (h : (readLine g (.inside entity) content).kind.showsUnclosed = true) :
    BlockState.outside.after g content = (BlockState.inside entity).after g content := by
  rw [BlockState.after, BlockState.after, readLine_outside hg h]
  exact next_of_showsUnclosed h

namespace Repair

/-- Outside of the block such a line gets the same body and leaves the same state. -/
theorem step_outside (hg : g.WellFormed) {entity : Text} {line : Line}
    (h : (readLine g (.inside entity) line.content).kind.showsUnclosed = true) :
    (Step.of g .outside line).newLine = (Step.of g (.inside entity) line).newLine ∧
      (Step.of g .outside line).after = (Step.of g (.inside entity) line).after := by
  have hReading := readLine_outside hg h
  refine ⟨?_, BlockState.after_outside hg h⟩
  change Line.mk (newBody line.body (readLine g .outside line.content)
    (decisions g line.content (readLine g .outside line.content))) line.ending = _
  rw [hReading]
  rfl

theorem output_outside (hg : g.WellFormed) {entity : Text} {line : Line} (rest : List Line)
    (h : (readLine g (.inside entity) line.content).kind.showsUnclosed = true) :
    output (steps g .outside (line :: rest)) = output (steps g (.inside entity) (line :: rest)) := by
  obtain ⟨hLine, hAfter⟩ := step_outside hg h
  rw [steps_cons, steps_cons, output, output, List.map_cons, List.map_cons, hLine, hAfter]

/-- A line with the footer alone. -/
def footerLine : Line := ⟨['\x7d'], .lf⟩

theorem readLine_footerLine (hg : g.IsMermaid) (entity : Text) :
    readLine g (.inside entity) footerLine.content = ⟨.entityFooter, 1, false⟩ := by
  have hDirective : g.isDirective footerLine.content = false := by
    rw [Grammar.isDirective, hg.directivePrefix]
    rfl
  rw [readLine_of_not_directive hDirective, hg.commentMarker]
  rfl

/-- The footer stays as it is and ends the block. -/
theorem step_footerLine (hg : g.IsMermaid) (entity : Text) :
    (Step.of g (.inside entity) footerLine).newLine = footerLine ∧
      (Step.of g (.inside entity) footerLine).after = .outside := by
  have hReading := readLine_footerLine hg entity
  refine ⟨(unchanged_of_clean ⟨?_, fun _ => ?_⟩).1, ?_⟩
  · change Settled g _ (readLine g (.inside entity) footerLine.content).kind
    rw [hReading]
    rfl
  · change (readLine g (.inside entity) footerLine.content).hasComment = false
    rw [hReading]
  · change BlockState.next _ _ (readLine g (.inside entity) footerLine.content).kind = _
    rw [hReading]
    rfl

end Repair

/-- A relationship or a header inside a block is read as it is read outside of any block, and leaves
the same state. So if such a line starts the rest of a text whose front leaves a block open, a footer
between them changes nothing else. -/
theorem normalize_append_footer (hg : g.ExtendsMermaid) :
    (∀ entity content : Text,
      (readLine g (.inside entity) content).kind.showsUnclosed = true →
        readLine g .outside content = readLine g (.inside entity) content ∧
          BlockState.outside.after g content = (BlockState.inside entity).after g content) ∧
    ∀ (p q entity : Text) (first : Line), p.EndsLine →
      Repair.finalState g .outside (splitLines p) = .inside entity →
      (splitLines q).head? = some first →
      (readLine g (.inside entity) first.content).kind.showsUnclosed = true →
      ∃ part, normalize g (p ++ q) = normalize g p ++ part ∧
        normalize g (p ++ ("\x7d\n".toList ++ q)) = normalize g p ++ ("\x7d\n".toList ++ part) := by
  refine ⟨fun entity content h =>
    ⟨readLine_outside hg.isMermaid.wellFormed h,
      BlockState.after_outside hg.isMermaid.wellFormed h⟩, ?_⟩
  intro p q entity first hFront hState hFirst hKind
  obtain ⟨rest, hLines⟩ := List.head?_eq_some_iff.mp hFirst
  obtain ⟨hFooter, hAfter⟩ := Repair.step_footerLine hg.isMermaid entity
  have hFooterLines : splitLines ("\x7d\n".toList ++ q) = Repair.footerLine :: splitLines q :=
    splitLines_append (Or.inr rfl) q
  refine ⟨Repair.output (Repair.steps g (.inside entity) (splitLines q)), ?_, ?_⟩
  · rw [Repair.normalize_append_eq hFront, hState]
  · rw [Repair.normalize_append_eq hFront, hState, hFooterLines, Repair.steps_cons, hAfter, hLines,
      Repair.output, List.map_cons, hFooter, joinLines_cons, ← Repair.output,
      Repair.output_outside hg.isMermaid.wellFormed rest hKind]
    rfl

theorem normalize_append_footer_withNotNull :
    let p := "A-B \x7b\nint a b NN\n".toList
    let q := "A-B ||--o\x7b C : is a\nint a b".toList
    let first : Line := ⟨"A-B ||--o\x7b C : is a".toList, .lf⟩
    Grammar.withNotNull.ExtendsMermaid ∧ Text.EndsLine p ∧
      Repair.finalState Grammar.withNotNull .outside (splitLines p) = .inside "A-B".toList ∧
      (splitLines q).head? = some first ∧
      (readLine Grammar.withNotNull (.inside "A-B".toList) first.content).kind.showsUnclosed = true ∧
      ∃ part, normalize Grammar.withNotNull (p ++ q) = normalize Grammar.withNotNull p ++ part ∧
        normalize Grammar.withNotNull (p ++ ("\x7d\n".toList ++ q)) =
          normalize Grammar.withNotNull p ++ ("\x7d\n".toList ++ part) := by
  intro p q first
  have hLine : Text.EndsLine p := Or.inr (by decide)
  have hState : Repair.finalState Grammar.withNotNull .outside (splitLines p) =
      .inside "A-B".toList := by decide +kernel
  have hFirst : (splitLines q).head? = some first := by decide +kernel
  have hKind : (readLine Grammar.withNotNull (.inside "A-B".toList)
      first.content).kind.showsUnclosed = true := by decide +kernel
  exact ⟨Grammar.extendsMermaid_withNotNull, hLine, hState, hFirst, hKind,
    (normalize_append_footer Grammar.extendsMermaid_withNotNull).2 p q _ first hLine hState hFirst
      hKind⟩

end ErDiagram
