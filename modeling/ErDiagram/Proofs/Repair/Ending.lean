import ErDiagram.Proofs.Ending
import ErDiagram.Proofs.Repair.Run

/-!
The line structure of a repaired text. A repair works on the bodies of lines only and brings nothing
into them that a line could end with, so the pieces of the text and their endings stay. What is read and
decided on a line does not depend on how the line ends.
-/

namespace ErDiagram

variable {g : Grammar}

/-- The step on the same line with a carriage return in front of its line feed. -/
def Step.withCrlf (step : Step) : Step :=
  { step with line := step.line.withCrlf }

namespace Repair

theorem map_ending_newLines (run : List Step) :
    (run.map Step.newLine).map Line.ending = (run.map Step.line).map Line.ending := by
  rw [List.map_map, List.map_map]
  rfl

theorem map_ending_steps (state : BlockState) (lines : List Line) :
    ((steps g state lines).map Step.newLine).map Line.ending = lines.map Line.ending := by
  rw [map_ending_newLines, map_line_steps]

/-- The ending of a line bears on no other part of the step. -/
theorem of_withCrlf (state : BlockState) (line : Line) :
    Step.of g state line.withCrlf = (Step.of g state line).withCrlf := rfl

theorem steps_withCrlf (state : BlockState) (lines : List Line) :
    steps g state (lines.map Line.withCrlf) = (steps g state lines).map Step.withCrlf := by
  induction lines generalizing state with
  | nil => rfl
  | cons line rest ih =>
      rw [List.map_cons, steps_cons, steps_cons, of_withCrlf, List.map_cons]
      exact congrArg ((Step.of g state line).withCrlf :: ·) (ih (Step.of g state line).after)

theorem changedFrom_withCrlf (number : Nat) (run : List Step) :
    changedFrom number (run.map Step.withCrlf) = changedFrom number run := by
  induction run generalizing number with
  | nil => rfl
  | cons step rest ih =>
      have hChanged : step.withCrlf.isChanged = step.isChanged := rfl
      rw [List.map_cons, changedFrom, changedFrom, hChanged, ih]

theorem report_withCrlf (run : List Step) : report (run.map Step.withCrlf) = report run := by
  rw [report, report, changedFrom_withCrlf, List.length_map, List.map_map]
  rfl

end Repair

/-- What a repair leaves of the line structure of a text. The last piece of a text has no ending, so
its repair leaves no line if nothing is left of it. -/
structure KeepsLines (g : Grammar) (t : Text) : Prop where
  pieces : ((normalize g t).splitOn '\n').length = (t.splitOn '\n').length
  endings : endings (normalize g t) = endings t
  lines : (splitLines (normalize g t)).map Line.ending <+: (splitLines t).map Line.ending
  newline : ∀ step ∈ repairRun g t, '\n' ∉ step.body
  carriage : ∀ step ∈ repairRun g t, step.line.ending = .lf → step.body.getLast? ≠ some '\r'
  lineFeeds : (normalize g t).count '\n' = t.count '\n'
  lineBreaks :
    Text.occurrences ['\r', '\n'] (normalize g t) = Text.occurrences ['\r', '\n'] t

theorem keepsLines_repairRun (g : Grammar) (t : Text) : KeepsLines g t := by
  have hOld := soundLines_splitLines t
  have hNew := Repair.soundLines_newLines g .outside hOld
  have hSound {step : Step} (hStep : step ∈ repairRun g t) : step.newLine.Sound :=
    hNew.sound_of_mem (List.mem_map_of_mem hStep)
  have hEndings : ((repairRun g t).map Step.newLine).map Line.ending =
      (splitLines t).map Line.ending := Repair.map_ending_steps .outside (splitLines t)
  have hAll : endings (normalize g t) = endings t := by
    have hSame := endings_congr hOld hNew hEndings
    rwa [joinLines_splitLines] at hSame
  refine {
    pieces := by rw [← length_endings, hAll, length_endings]
    endings := hAll
    lines := ?_
    newline := fun step hStep => (hSound hStep).newline
    carriage := fun step hStep => (hSound hStep).carriage
    lineFeeds := ?_
    lineBreaks := ?_ }
  · obtain ⟨dropped, hLines, -⟩ := Repair.newLines_eq g t
    rw [← hEndings, hLines, List.map_append]
    exact List.prefix_append _ _
  · have hCount := count_newline_eq (normalize g t)
    rw [hAll, ← count_newline_eq] at hCount
    exact Nat.add_right_cancel hCount
  · have hBefore := occurrences_crlf_joinLines hOld
    rw [joinLines_splitLines] at hBefore
    rw [hBefore, ← hEndings]
    exact occurrences_crlf_joinLines hNew

/-- A text with other line breaks is repaired alike. -/
theorem withCrlf_repairRun (g : Grammar) {t : Text} (h : '\r' ∉ t) :
    repairRun g (Text.withCrlf t) = (repairRun g t).map Step.withCrlf := by
  rw [repairRun, splitLines_withCrlf h, Repair.steps_withCrlf]
  rfl

theorem normalize_withCrlf (g : Grammar) {t : Text} (h : '\r' ∉ t) :
    normalize g (Text.withCrlf t) = Text.withCrlf (normalize g t) := by
  have hLines : ∀ line ∈ (repairRun g t).map Step.newLine,
      '\n' ∉ line.body ∧ line.ending ≠ .crlf := by
    intro line hLine
    obtain ⟨step, hStep, rfl⟩ := List.mem_map.mp hLine
    have hEnding : step.line.ending ≠ .crlf :=
      ending_ne_crlf h (Repair.line_mem_splitLines hStep)
    exact ⟨(keepsLines_repairRun g t).newline step hStep, hEnding⟩
  rw [normalize, withCrlf_repairRun g h, normalize, Repair.output, Repair.output,
    ← joinLines_withCrlf hLines, List.map_map, List.map_map]
  rfl

/-- A repair keeps the line structure of a text: the pieces between line feeds, how every line ends,
and the numbers of line feeds and of line breaks with a carriage return. On a text without carriage
returns it also commutes with a conversion of the line breaks, which the report does not show. -/
theorem normalize_keepsLines (g : Grammar) (t : Text) :
    KeepsLines g t ∧
      ('\r' ∉ t →
        normalize g (Text.withCrlf t) = Text.withCrlf (normalize g t) ∧
          repairReport g (Text.withCrlf t) = repairReport g t) := by
  refine ⟨keepsLines_repairRun g t, fun h => ⟨normalize_withCrlf g h, ?_⟩⟩
  rw [repairReport, withCrlf_repairRun g h, Repair.report_withCrlf]
  rfl

/-- The comment inside the block goes, and the line outside of it that is only a comment is left alone. -/
theorem normalize_keepsLines_mermaid :
    let t := "A-B \x7b\nint a b // c\n\x7d\n//".toList
    KeepsLines Grammar.mermaid t ∧ '\r' ∉ t ∧
      normalize Grammar.mermaid t = "A_B \x7b\nint ab\n\x7d\n//".toList ∧
      normalize Grammar.mermaid (Text.withCrlf t) = "A_B \x7b\r\nint ab\r\n\x7d\r\n//".toList ∧
      repairReport Grammar.mermaid (Text.withCrlf t) = repairReport Grammar.mermaid t := by
  intro t
  have hReturn : '\r' ∉ t := by decide
  have hNew : normalize Grammar.mermaid t = "A_B \x7b\nint ab\n\x7d\n//".toList := by decide +kernel
  obtain ⟨hKeeps, hCrlf⟩ := normalize_keepsLines Grammar.mermaid t
  obtain ⟨hText, hReport⟩ := hCrlf hReturn
  rw [hNew] at hText
  exact ⟨hKeeps, hReturn, hNew, hText.trans (by decide), hReport⟩

end ErDiagram
