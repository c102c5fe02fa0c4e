import ErDiagram.Proofs.Repair.Run

/-!
Texts cut between two lines. The run over such a text is the run over its front and, from the state
that the front leaves, the run over the rest; nothing but that state crosses the cut. So a front is
repaired as it is alone, and a rest that starts outside of any block is, too.
-/

namespace ErDiagram

/-- A text behind which a new line starts. -/
def Text.EndsLine (t : Text) : Prop :=
  t = [] ∨ t.getLast? = some '\n'

theorem Line.endsLine_text {line : Line} (h : line.ending ≠ .endOfText) : line.text.EndsLine := by
  obtain ⟨body, ending⟩ := line
  refine Or.inr ?_
  cases ending with
  | endOfText => exact absurd rfl h
  | lf => simp [text, Ending.text]
  | crlf => simp [text, Ending.text]

theorem splitLines_ne_nil {t : Text} (h : t ≠ []) : splitLines t ≠ [] := by
  intro hNil
  apply h
  rw [← joinLines_splitLines t, hNil]
  rfl

/-- A carriage return at the start of the rest joins no line in front of it. -/
theorem splitLines_append {a : Text} (h : a.EndsLine) (b : Text) :
    splitLines (a ++ b) = splitLines a ++ splitLines b := by
  induction a with
  | nil => rfl
  | cons c a ih =>
      have hLast : (c :: a).getLast? = some '\n' := h.resolve_left (List.cons_ne_nil c a)
      by_cases hNil : a = []
      · subst hNil
        obtain rfl : c = '\n' := Option.some.inj hLast
        rfl
      · have hTail : splitLines (a ++ b) = splitLines a ++ splitLines b := by
          refine ih (Or.inr ?_)
          rwa [← List.singleton_append, List.getLast?_append_of_ne_nil _ hNil] at hLast
        by_cases hFeed : c = '\n'
        · rw [List.cons_append, splitLines, if_pos hFeed, hTail, splitLines, if_pos hFeed]
          rfl
        · obtain ⟨line, more, hLines⟩ := List.exists_cons_of_ne_nil (splitLines_ne_nil hNil)
          rw [hLines, List.cons_append] at hTail
          rw [List.cons_append, splitLines_cons_of_ne hFeed hTail,
            splitLines_cons_of_ne hFeed hLines]
          rfl

namespace Repair

variable {g : Grammar}

theorem output_append (a b : List Step) : output (a ++ b) = output a ++ output b := by
  rw [output, joinLines, List.map_append, List.flatMap_append]
  rfl

/-- Later numbers shift all changed lines alike. -/
theorem changedFrom_add (number shift : Nat) (run : List Step) :
    changedFrom (number + shift) run = (changedFrom number run).map (· + shift) := by
  induction run generalizing number with
  | nil => rfl
  | cons step rest ih =>
      have hRest := ih (number + 1)
      rw [Nat.add_right_comm] at hRest
      rw [changedFrom, changedFrom, hRest]
      split
      · rfl
      · rfl

/-- The run over a text that is cut between two lines. -/
theorem repairRun_append {a : Text} (h : a.EndsLine) (b : Text) :
    repairRun g (a ++ b) =
      repairRun g a ++ steps g (finalState g .outside (splitLines a)) (splitLines b) := by
  rw [repairRun, splitLines_append h, steps_append]
  rfl

theorem normalize_append_eq {a : Text} (h : a.EndsLine) (b : Text) :
    normalize g (a ++ b) = normalize g a ++
      output (steps g (finalState g .outside (splitLines a)) (splitLines b)) := by
  rw [normalize, repairRun_append h, output_append]
  rfl

end Repair

/-- What follows a line changes nothing in front of it. Where the front leaves no block open, the rest
is repaired as it is alone, and the report is that of the front followed by that of the rest, with the
lines of the rest numbered on. -/
theorem normalize_append (g : Grammar) {a : Text} (h : a.EndsLine) (b : Text) :
    normalize g a <+: normalize g (a ++ b) ∧
      (Repair.finalState g .outside (splitLines a) = .outside →
        normalize g (a ++ b) = normalize g a ++ normalize g b ∧
        (repairReport g (a ++ b)).linesTotal =
          (repairReport g a).linesTotal + (repairReport g b).linesTotal ∧
        (repairReport g (a ++ b)).changedLines = (repairReport g a).changedLines ++
          (repairReport g b).changedLines.map (· + (splitLines a).length) ∧
        (repairReport g (a ++ b)).tally = (repairReport g a).tally + (repairReport g b).tally) := by
  refine ⟨⟨_, (Repair.normalize_append_eq h b).symm⟩, fun hOutside => ?_⟩
  have hRun : repairRun g (a ++ b) = repairRun g a ++ repairRun g b := by
    rw [Repair.repairRun_append h, hOutside]
    rfl
  have hLength := Repair.length_repairRun g a
  refine ⟨?_, ?_, ?_, ?_⟩
  · rw [normalize, hRun, Repair.output_append]
    rfl
  · rw [repairReport, hRun]
    exact List.length_append
  · rw [repairReport, hRun, Repair.report, Repair.changedFrom_append, Repair.changedFrom_add,
      hLength]
    rfl
  · rw [repairReport, hRun, Repair.report, List.map_append, Tally.sum_append]
    rfl

theorem normalize_append_closedBlock :
    let a := "A-B \x7b // c\r\n int a b\r\n\x7d\n".toList
    let b := "A-B ||--o\x7b C : is a\nint a b".toList
    Text.EndsLine a ∧ Repair.finalState Grammar.mermaid .outside (splitLines a) = .outside ∧
      normalize Grammar.mermaid a <+: normalize Grammar.mermaid (a ++ b) ∧
      normalize Grammar.mermaid (a ++ b) = normalize Grammar.mermaid a ++ normalize Grammar.mermaid b ∧
      (repairReport Grammar.mermaid (a ++ b)).changedLines =
        (repairReport Grammar.mermaid a).changedLines ++
          (repairReport Grammar.mermaid b).changedLines.map (· + (splitLines a).length) ∧
      (repairReport Grammar.mermaid (a ++ b)).changedLines = [1, 2, 4] := by
  intro a b
  have hLine : Text.EndsLine a := Or.inr (by decide)
  have hOutside : Repair.finalState Grammar.mermaid .outside (splitLines a) = .outside := by
    decide +kernel
  obtain ⟨hFront, hWhole⟩ := normalize_append Grammar.mermaid hLine b
  obtain ⟨hText, -, hChanged, -⟩ := hWhole hOutside
  exact ⟨hLine, hOutside, hFront, hText, hChanged, hChanged.trans (by decide +kernel)⟩

end ErDiagram
