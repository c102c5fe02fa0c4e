import ErDiagram.Proofs.Repair.Line
import Mathlib.Data.List.Forall2

/-!
Runs over whole texts. The lines that a run leaves correspond to the lines it was given, one by one,
and nothing is left to repair on any of them; a run over such lines changes nothing.
-/

namespace ErDiagram

/-- What a run over the contents of lines meets, from a state on. -/
def sightings (g : Grammar) : BlockState → List Text → List Sighting
  | _, [] => []
  | before, content :: rest =>
    let s := Sighting.of g before content
    s :: sightings g s.after rest

/-- What a run over a text meets. It starts outside of any block. -/
def sightingsOf (g : Grammar) (text : Text) : List Sighting :=
  sightings g .outside ((splitLines text).map Line.content)

variable {g : Grammar}

/-- Lines at the end bear on nothing before them. -/
theorem sightings_append (state : BlockState) (a b : List Text) :
    ∃ more, sightings g state (a ++ b) = sightings g state a ++ more := by
  induction a generalizing state with
  | nil => exact ⟨sightings g state b, rfl⟩
  | cons content a ih =>
      obtain ⟨more, hMore⟩ := ih (Sighting.of g state content).after
      exact ⟨more, congrArg (Sighting.of g state content :: ·) hMore⟩

theorem exists_of_mem_sightings {state : BlockState} {contents : List Text} {s : Sighting}
    (h : s ∈ sightings g state contents) :
    ∃ before content, content ∈ contents ∧ s = Sighting.of g before content := by
  induction contents generalizing state with
  | nil => cases h
  | cons content rest ih =>
      rcases List.mem_cons.mp h with rfl | hLater
      · exact ⟨state, content, List.mem_cons_self, rfl⟩
      · obtain ⟨before, other, hOther, hs⟩ := ih hLater
        exact ⟨before, other, List.mem_cons_of_mem _ hOther, hs⟩

theorem Step.isChanged_eq_false_iff {step : Step} :
    step.isChanged = false ↔ step.newLine = step.line := by
  rw [isChanged, bne_eq_false_iff_eq]
  exact ⟨fun h => congrArg (Line.mk · step.line.ending) h, fun h => congrArg Line.body h⟩

namespace Repair

theorem steps_cons (state : BlockState) (line : Line) (rest : List Line) :
    steps g state (line :: rest) = Step.of g state line :: steps g (Step.of g state line).after rest :=
  rfl

theorem steps_append (state : BlockState) (a b : List Line) :
    steps g state (a ++ b) = steps g state a ++ steps g (finalState g state a) b := by
  induction a generalizing state with
  | nil => rfl
  | cons line a ih => rw [List.cons_append, steps_cons, ih]; rfl

theorem finalState_append (state : BlockState) (a b : List Line) :
    finalState g state (a ++ b) = finalState g (finalState g state a) b := by
  induction a generalizing state with
  | nil => rfl
  | cons line a ih => exact ih _

theorem map_line_steps (state : BlockState) (lines : List Line) :
    (steps g state lines).map Step.line = lines := by
  induction lines generalizing state with
  | nil => rfl
  | cons line rest ih => rw [steps_cons, List.map_cons, ih]; rfl

theorem map_line_repairRun (g : Grammar) (t : Text) :
    (repairRun g t).map Step.line = splitLines t :=
  map_line_steps .outside (splitLines t)

theorem length_repairRun (g : Grammar) (t : Text) : (repairRun g t).length = (splitLines t).length := by
  rw [← map_line_repairRun g t, List.length_map]

theorem line_mem_splitLines {t : Text} {step : Step} (h : step ∈ repairRun g t) :
    step.line ∈ splitLines t := by
  rw [← map_line_repairRun g t]
  exact List.mem_map_of_mem h

theorem exists_of_mem_steps {state : BlockState} {lines : List Line} {step : Step}
    (h : step ∈ steps g state lines) : ∃ before line, step = Step.of g before line := by
  induction lines generalizing state with
  | nil => cases h
  | cons line rest ih =>
      rcases List.mem_cons.mp h with rfl | hLater
      · exact ⟨state, line, rfl⟩
      · exact ih hLater

/-- Every line that a run leaves corresponds to the line it comes from, and is clean. -/
theorem corresponds_steps_of_inert (hg : g.WellFormed) (hInert : g.Inert) (state : BlockState)
    (lines : List Line) :
    List.Forall₂ (fun first second => Sighting.Corresponds first second ∧ second.Clean g)
      (sightings g state (lines.map Line.content))
      (sightings g state.repaired ((steps g state lines).map fun step => step.newLine.content)) := by
  induction lines generalizing state with
  | nil => exact .nil
  | cons line rest ih =>
      have hStep := Sighting.corresponds_step hg hInert state line
      refine .cons hStep ?_
      rw [hStep.1.after]
      exact ih (Sighting.of g state line.content).after

theorem corresponds_steps (hg : g.IsMermaid) (state : BlockState) (lines : List Line) :
    List.Forall₂ (fun first second => Sighting.Corresponds first second ∧ second.Clean g)
      (sightings g state (lines.map Line.content))
      (sightings g state.repaired ((steps g state lines).map fun step => step.newLine.content)) :=
  corresponds_steps_of_inert hg.wellFormed hg.inert state lines

theorem soundLines_newLines (g : Grammar) (state : BlockState) {lines : List Line}
    (h : SoundLines lines) : SoundLines ((steps g state lines).map Step.newLine) := by
  induction lines generalizing state with
  | nil => trivial
  | cons line rest ih =>
      obtain ⟨hSound, hLast, hRest⟩ := h
      refine ⟨sound_newLine g state hSound, fun hEnding => ?_, ih _ hRest⟩
      rw [hLast hEnding]
      rfl

/-- The lines that a run over a text leaves are those of the repaired text, apart from a last line
that leaves no trace. -/
theorem newLines_eq (g : Grammar) (t : Text) :
    ∃ dropped, (repairRun g t).map Step.newLine = splitLines (normalize g t) ++ dropped ∧
      (dropped = [] ∨ dropped = [Line.vacant]) :=
  splitLines_joinLines (soundLines_newLines g .outside (soundLines_splitLines t))

/-- Every line of a repaired text is the new line of the step at its place. -/
theorem exists_step_of_line {t : Text} {i : Nat} {line : Line}
    (h : (splitLines (normalize g t))[i]? = some line) :
    ∃ step, (repairRun g t)[i]? = some step ∧ step.newLine = line ∧
      (splitLines t)[i]? = some step.line := by
  obtain ⟨dropped, hLines, -⟩ := newLines_eq g t
  have hNew : ((repairRun g t).map Step.newLine)[i]? = some line := by
    rw [hLines, List.getElem?_append_left (List.getElem?_eq_some_iff.mp h).1, h]
  rw [List.getElem?_map, Option.map_eq_some_iff] at hNew
  obtain ⟨step, hStep, rfl⟩ := hNew
  refine ⟨step, hStep, rfl, ?_⟩
  rw [← map_line_repairRun g t, List.getElem?_map, hStep]
  rfl

/-- Nothing is left to repair in a repaired text. -/
theorem clean_normalize_of_inert (hg : g.WellFormed) (hInert : g.Inert) (t : Text) :
    ∀ s ∈ sightingsOf g (normalize g t), s.Clean g := by
  obtain ⟨dropped, hLines, -⟩ := newLines_eq g t
  have hRun := corresponds_steps_of_inert hg hInert .outside (splitLines t)
  have hContents : (steps g .outside (splitLines t)).map (fun step => step.newLine.content) =
      (splitLines (normalize g t)).map Line.content ++ dropped.map Line.content := by
    rw [← List.map_append, ← hLines, List.map_map]
    rfl
  rw [hContents] at hRun
  obtain ⟨more, hMore⟩ := @sightings_append g BlockState.outside.repaired
    ((splitLines (normalize g t)).map Line.content) (dropped.map Line.content)
  rw [hMore] at hRun
  intro s hs
  have hIn : s ∈ sightings g BlockState.outside.repaired
      ((splitLines (normalize g t)).map Line.content) ++ more := List.mem_append_left _ hs
  obtain ⟨n, hn, rfl⟩ := List.mem_iff_getElem.mp hIn
  exact (List.forall₂_iff_get.mp hRun).2 n (by rw [hRun.length_eq]; exact hn) hn |>.2

theorem clean_normalize (hg : g.IsMermaid) (t : Text) :
    ∀ s ∈ sightingsOf g (normalize g t), s.Clean g :=
  clean_normalize_of_inert hg.wellFormed hg.inert t

end Repair

/-- A run over the lines that a repair leaves meets, line by line, what a run over the text meets: the
same kinds with corresponding parts, in corresponding states, and no comment where comments are
stripped. -/
theorem sightings_correspond (hg : g.ExtendsMermaid) (t : Text) :
    List.Forall₂ Sighting.Corresponds (sightingsOf g t)
      (sightings g .outside ((repairRun g t).map fun step => step.newLine.content)) :=
  (Repair.corresponds_steps hg.isMermaid .outside (splitLines t)).imp fun _ _ h => h.1

theorem sightings_correspond_withNotNull :
    let g := Grammar.withNotNull
    let t := "A-B \x7b // c\n int a b NN\nA-B ||--o\x7b C : is a".toList
    let new := sightings g .outside ((repairRun g t).map fun step => step.newLine.content)
    g.ExtendsMermaid ∧ List.Forall₂ Sighting.Corresponds (sightingsOf g t) new ∧
      (sightingsOf g t).map (·.reading.hasComment) = [true, false, false] ∧
      new.map (·.reading.hasComment) = [false, false, false] ∧
      new.map Sighting.content =
        ["A_B \x7b".toList, "int ab NN".toList, "A_B ||--o\x7b C : isA".toList] :=
  ⟨Grammar.extendsMermaid_withNotNull, sightings_correspond Grammar.extendsMermaid_withNotNull _,
    by decide +kernel, by decide +kernel, by decide +kernel⟩

namespace Repair

/-- A decision on the code of a line that makes no edit repairs nothing. -/
theorem tally_of_edit?_eq_none {code : Text} {kind : LineKind} {d : Decision}
    (h : d ∈ codeDecisions g code kind) (hEdit : d.edit? = none) : d.tally = {} := by
  cases d with
  | renameEntity span old new => cases hEdit
  | joinName span old new => cases hEdit
  | camelCaseLabel span old new => cases hEdit
  | stripComment stripped => exact absurd h (stripComment_notMem stripped g code kind)
  | keepName joined => rfl
  | keepLabel label => rfl

theorem tally_sum_eq {tallies : List Tally} (h : ∀ tally ∈ tallies, tally = {}) :
    Tally.sum tallies = {} := by
  induction tallies with
  | nil => rfl
  | cons tally rest ih =>
      rw [Tally.sum, h tally List.mem_cons_self, ih fun t ht => h t (List.mem_cons_of_mem _ ht)]
      rfl

/-- A clean line stays as it is, and nothing is counted on it. -/
theorem unchanged_of_clean {state : BlockState} {line : Line}
    (h : (Sighting.of g state line.content).Clean g) :
    (Step.of g state line).newLine = line ∧ (Step.of g state line).tally = {} := by
  obtain ⟨hSettled, hComment⟩ := h
  have hDecisions : (Step.of g state line).decisions =
      codeDecisions g ((readLine g state line.content).code line.content)
        (readLine g state line.content).kind := by
    have hNone : ((readLine g state line.content).hasComment &&
        !(readLine g state line.content).kind.isPassThrough) = false := by
      cases hPass : (readLine g state line.content).kind.isPassThrough with
      | true => exact Bool.and_false _
      | false => rw [show (readLine g state line.content).hasComment = false from hComment hPass]; rfl
    change decisions g line.content (readLine g state line.content) = _
    rw [decisions, if_neg (by simp [hNone]), List.append_nil]
  constructor
  · cases hPass : (readLine g state line.content).kind.isPassThrough with
    | true => exact congrArg (Line.mk · line.ending) (newBody_of_passThrough hPass)
    | false =>
        have hNone : (readLine g state line.content).hasComment = false := hComment hPass
        have hBody : (Step.of g state line).newLine.body = _ := newBody_eq hPass
        have hCode : (readLine g state line.content).code line.content = line.content := by
          rcases @code_cases g state line.content (not_directive_of_kind hPass) with
            ⟨-, hCode, -⟩ | ⟨hSome, -, -⟩
          · exact hCode
          · rw [hNone] at hSome
            cases hSome
        have hNew : newCode g
            ((readLine g state (splitIndent line.body).2).code (splitIndent line.body).2)
            (readLine g state (splitIndent line.body).2).kind = (splitIndent line.body).2 :=
          (newCode_of_settled hSettled).trans hCode
        refine congrArg (Line.mk · line.ending) (hBody.trans ?_)
        rw [hNew, show (readLine g state (splitIndent line.body).2).hasComment = false from hNone]
        exact (splitIndent_spec line.body).1.symm
  · rw [Step.tally, hDecisions]
    apply tally_sum_eq
    intro tally hTally
    obtain ⟨d, hd, rfl⟩ := List.mem_map.mp hTally
    exact tally_of_edit?_eq_none hd (List.filterMap_eq_nil_iff.mp hSettled d hd)

/-- A run over clean lines changes nothing and counts nothing. -/
theorem unchanged_run {state : BlockState} {lines : List Line}
    (h : ∀ s ∈ sightings g state (lines.map Line.content), s.Clean g) :
    (steps g state lines).map Step.newLine = lines ∧
      ∀ step ∈ steps g state lines, step.isChanged = false ∧ step.tally = {} := by
  induction lines generalizing state with
  | nil => exact ⟨rfl, nofun⟩
  | cons line rest ih =>
      obtain ⟨hLine, hTally⟩ := unchanged_of_clean (h _ List.mem_cons_self)
      obtain ⟨hRest, hSteps⟩ := ih fun s hs => h s (List.mem_cons_of_mem _ hs)
      refine ⟨?_, fun step hStep => ?_⟩
      · rw [steps_cons, List.map_cons, hLine]
        exact congrArg (line :: ·) hRest
      · rcases List.mem_cons.mp hStep with rfl | hLater
        · exact ⟨Step.isChanged_eq_false_iff.mpr hLine, hTally⟩
        · exact hSteps step hLater

theorem changedFrom_append (number : Nat) (a b : List Step) :
    changedFrom number (a ++ b) = changedFrom number a ++ changedFrom (number + a.length) b := by
  induction a generalizing number with
  | nil => rfl
  | cons step a ih =>
      have hNumber : number + (step :: a).length = number + 1 + a.length := by
        rw [List.length_cons]
        omega
      rw [List.cons_append, changedFrom, changedFrom, ih, hNumber]
      split
      · rfl
      · rfl

/-- The changed lines are the ones whose new line differs. -/
theorem changedFrom_eq (number : Nat) (run : List Step) :
    changedFrom number run = ((run.map fun step => (step.line, step.newLine)).zipIdx number).filterMap
      fun (lines, number) => if lines.2 = lines.1 then none else some number := by
  induction run generalizing number with
  | nil => rfl
  | cons step rest ih =>
      rw [changedFrom, ih, List.map_cons, List.zipIdx_cons, List.filterMap_cons]
      simp only [← Step.isChanged_eq_false_iff]
      cases step.isChanged with
      | false => rfl
      | true => rfl

theorem length_changedFrom (number : Nat) (run : List Step) :
    (changedFrom number run).length = run.countP Step.isChanged := by
  induction run generalizing number with
  | nil => rfl
  | cons step rest ih =>
      rw [changedFrom, List.countP_cons]
      split
      next => rw [List.length_cons, ih]
      next => rw [ih, Nat.add_zero]

theorem changedFrom_eq_nil_iff {number : Nat} {run : List Step} :
    changedFrom number run = [] ↔ ∀ step ∈ run, step.isChanged = false := by
  rw [← List.length_eq_zero_iff, length_changedFrom, List.countP_eq_zero]
  simp only [Bool.not_eq_true]

end Repair

/-- A text on which everything is clean is its own repair, and the report says so. -/
theorem normalize_eq_self_of_clean {t : Text} (h : ∀ s ∈ sightingsOf g t, s.Clean g) :
    normalize g t = t ∧ (repairReport g t).isClean = true ∧ (repairReport g t).repairCount = 0 := by
  obtain ⟨hLines, hSteps⟩ := Repair.unchanged_run h
  refine ⟨?_, ?_, ?_⟩
  · rw [normalize, Repair.output, repairRun, hLines, joinLines_splitLines]
  · rw [repairReport, Report.isClean, List.isEmpty_iff]
    exact Repair.changedFrom_eq_nil_iff.mpr fun step hStep => (hSteps step hStep).1
  · have hTally : Tally.sum ((repairRun g t).map Step.tally) = {} := by
      apply Repair.tally_sum_eq
      intro tally hTally
      obtain ⟨step, hStep, rfl⟩ := List.mem_map.mp hTally
      exact (hSteps step hStep).2
    rw [repairReport, Report.repairCount, Repair.report, hTally]
    rfl

end ErDiagram
