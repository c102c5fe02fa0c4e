import ErDiagram.Difference
import ErDiagram.Proofs.Repair.Account

/-!
The difference of a text and its repair. A repair leaves every line but one: a last line without an
ending, of which nothing is left, is no line of the repaired text. That line is changed, and the
difference passes over it; every other changed line is shown.
-/

namespace ErDiagram

namespace Step

/-- Whether the new line leaves no trace in the repaired text. -/
def isVacated (step : Step) : Bool :=
  step.newLine == Line.vacant

theorem isVacated_iff {step : Step} : step.isVacated = true ↔ step.newLine = Line.vacant :=
  beq_iff_eq

end Step

namespace Repair

variable {g : Grammar}

/-- Where a line of the repaired text comes from. -/
theorem getElem?_splitLines_normalize {t : Text} {i : Nat} {step : Step}
    (h : (repairRun g t)[i]? = some step) :
    (splitLines (normalize g t))[i]? = if step.isVacated then none else some step.newLine := by
  obtain ⟨dropped, hLines, hDropped⟩ := newLines_eq g t
  have hNew : (splitLines (normalize g t) ++ dropped)[i]? = some step.newLine := by
    rw [← hLines, List.getElem?_map, h]
    rfl
  rw [List.getElem?_append] at hNew
  split at hNew
  next =>
    have hKept : ¬ step.isVacated = true := by
      rw [Step.isVacated_iff]
      intro hVacant
      exact vacant_notMem_splitLines _ (hVacant ▸ List.mem_of_getElem? hNew)
    rw [if_neg hKept, hNew]
  next hOutside =>
    have hVacated : step.isVacated = true := by
      rw [Step.isVacated_iff]
      rcases hDropped with rfl | rfl
      · cases hNew
      · exact List.mem_singleton.mp (List.mem_of_getElem? hNew)
    rw [if_pos hVacated, List.getElem?_eq_none (Nat.le_of_not_lt hOutside)]

/-- A repaired text has the lines that leave a trace, and at most one line leaves none. -/
theorem length_splitLines_normalize (g : Grammar) (t : Text) :
    (splitLines (normalize g t)).length + (repairRun g t).countP Step.isVacated =
        (repairRun g t).length ∧
      (repairRun g t).countP Step.isVacated ≤ 1 := by
  obtain ⟨dropped, hLines, hDropped⟩ := newLines_eq g t
  have hKept : (splitLines (normalize g t)).countP (· == Line.vacant) = 0 := by
    rw [List.countP_eq_zero]
    intro line hLine hVacant
    exact vacant_notMem_splitLines _ (beq_iff_eq.mp hVacant ▸ hLine)
  have hLost : dropped.countP (· == Line.vacant) = dropped.length ∧ dropped.length ≤ 1 := by
    rcases hDropped with rfl | rfl
    · exact ⟨rfl, Nat.zero_le 1⟩
    · exact ⟨rfl, Nat.le_refl 1⟩
  have hCount : (repairRun g t).countP Step.isVacated =
      ((repairRun g t).map Step.newLine).countP (· == Line.vacant) := by
    rw [List.countP_map]
    rfl
  have hLength := congrArg List.length hLines
  rw [List.length_map, List.length_append] at hLength
  rw [hCount, hLines, List.countP_append, hKept]
  omega

/-- Only the last step of a run can leave a line without a trace, and that line is changed. -/
theorem of_isVacated {t : Text} {step : Step} (hStep : step ∈ repairRun g t)
    (hVacated : step.isVacated = true) :
    (repairRun g t).getLast? = some step ∧ step.isChanged = true := by
  obtain ⟨i, hIndex⟩ := List.mem_iff_getElem?.mp hStep
  have hNone := getElem?_splitLines_normalize hIndex
  rw [if_pos hVacated, List.getElem?_eq_none_iff] at hNone
  have hInside := (List.getElem?_eq_some_iff.mp hIndex).1
  have hLength := length_splitLines_normalize g t
  refine ⟨?_, ?_⟩
  · have hLast : (repairRun g t).length - 1 = i := by omega
    rw [List.getLast?_eq_getElem?, hLast, hIndex]
  · apply eq_true_of_ne_false
    intro hSame
    have hOld : step.line = Line.vacant :=
      (Step.isChanged_eq_false_iff.mp hSame).symm.trans (Step.isVacated_iff.mp hVacated)
    exact vacant_notMem_splitLines t (hOld ▸ line_mem_splitLines hStep)

theorem flatMap_changedFrom (f : Nat → Text) (number : Nat) (run : List Step) :
    (changedFrom number run).flatMap f =
      (run.zipIdx number).flatMap fun (step, n) => if step.isChanged then f n else [] := by
  induction run generalizing number with
  | nil => rfl
  | cons step rest ih =>
      simp only [changedFrom, List.zipIdx_cons, List.flatMap_cons, ← ih]
      split
      next => rw [List.flatMap_cons]
      next => rw [List.nil_append]

end Repair

/-- The difference that a check shows: one pair of lines for every changed step of the run, in order,
except for a last line that leaves no trace. -/
theorem renderDifference_eq (g : Grammar) (palette : Palette) (t : Text) :
    renderDifference palette t (normalize g t) (repairReport g t).changedLines =
      ((repairRun g t).zipIdx 1).flatMap fun (step, number) =>
        if step.isChanged && !step.isVacated then
          Difference.pair palette number step.line step.newLine
        else [] := by
  have hOld := Repair.map_line_repairRun g t
  rw [renderDifference, repairReport, Repair.report, Repair.flatMap_changedFrom]
  apply List.flatMap_congr
  rintro ⟨step, number⟩ hPlace
  obtain ⟨hPos, hIndex⟩ := List.mem_zipIdx_iff_le_and_getElem?_sub.mp hPlace
  obtain ⟨i, rfl⟩ := Nat.exists_eq_add_of_le' hPos
  have hStep : (repairRun g t)[i]? = some step := hIndex
  have hLine : Difference.lineAt? (splitLines t) (i + 1) = some step.line := by
    rw [Difference.lineAt?, ← hOld, List.getElem?_map, hStep]
    rfl
  have hNew : Difference.lineAt? (splitLines (normalize g t)) (i + 1) =
      if step.isVacated then none else some step.newLine :=
    Repair.getElem?_splitLines_normalize hStep
  simp only [hLine, hNew]
  cases step.isChanged with
  | false => rfl
  | true =>
      cases step.isVacated with
      | true => rfl
      | false => rfl

/-- A repaired text has as many lines as the text, unless the last line leaves no trace. Then it has
one line less, the difference passes over that line alone, and the line is a changed one. -/
theorem renderDifference_normalize (g : Grammar) (palette : Palette) (t : Text) :
    (splitLines (normalize g t)).length + (repairRun g t).countP Step.isVacated =
        (splitLines t).length ∧
      (∀ step ∈ repairRun g t, step.isVacated = true →
        (repairRun g t).getLast? = some step ∧ step.isChanged = true) ∧
      renderDifference palette t (normalize g t) (repairReport g t).changedLines =
        ((repairRun g t).zipIdx 1).flatMap fun (step, number) =>
          if step.isChanged && !step.isVacated then
            Difference.pair palette number step.line step.newLine
          else [] := by
  refine ⟨?_, fun step hStep hVacated => Repair.of_isVacated hStep hVacated,
    renderDifference_eq g palette t⟩
  rw [(Repair.length_splitLines_normalize g t).1, ← List.length_map Step.line,
    Repair.map_line_repairRun]

theorem renderDifference_normalize_vacated :
    let t := "A \x7b\n//x".toList
    ∃ step ∈ repairRun Grammar.mermaid t, step.isVacated = true ∧
      (repairRun Grammar.mermaid t).getLast? = some step ∧ step.isChanged = true := by
  intro t
  let step := Step.of Grammar.mermaid (.inside "A".toList) ⟨"//x".toList, .endOfText⟩
  have hStep : step ∈ repairRun Grammar.mermaid t := by decide +kernel
  have hVacated : step.isVacated = true := by decide +kernel
  exact ⟨step, hStep, hVacated,
    (renderDifference_normalize Grammar.mermaid .plain t).2.1 step hStep hVacated⟩

/-- A comment alone on the last line of a text whose block is open. Its line is changed, but it is not
shown. -/
theorem renderDifference_normalize_comment :
    let t := "A \x7b\n//x".toList
    (splitLines (normalize Grammar.mermaid t)).length ≠ (splitLines t).length ∧
      (repairReport Grammar.mermaid t).changedLines = [2] ∧
      renderDifference .plain t (normalize Grammar.mermaid t) [2] = [] := by
  decide +kernel

end ErDiagram
