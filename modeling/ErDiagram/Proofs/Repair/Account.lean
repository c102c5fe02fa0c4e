import ErDiagram.Proofs.Repair.Trace

/-!
The report of a run against the run. On one line, what is counted and whether the body changes both say
whether anything was to be repaired, so the changed lines, the counters and the repaired text cannot
disagree. All of this holds under any grammar.
-/

namespace ErDiagram

namespace Tally

theorem total_add (a b : Tally) : (a + b).total = a.total + b.total := by
  change a.commentsStripped + b.commentsStripped + (a.entityNamesRepaired + b.entityNamesRepaired) +
    (a.attributeNamesJoined + b.attributeNamesJoined) +
    (a.labelsCamelCased + b.labelsCamelCased) = _
  rw [total, total]
  omega

theorem total_sum (tallies : List Tally) : (sum tallies).total = (tallies.map total).sum :=
  sum_eq total rfl total_add tallies

end Tally

namespace Decision

theorem total_tally_le (d : Decision) : d.tally.total ≤ 1 := by
  cases d with
  | renameEntity span old new => exact Nat.le_refl 1
  | joinName span old new => exact Nat.le_refl 1
  | camelCaseLabel span old new => exact Nat.le_refl 1
  | stripComment kind => exact Nat.le_refl 1
  | keepName joined => exact Nat.zero_le 1
  | keepLabel label => exact Nat.zero_le 1

theorem sum_total_tally_le (decisions : List Decision) :
    (decisions.map fun d => d.tally.total).sum ≤ decisions.length := by
  induction decisions with
  | nil => exact Nat.le_refl 0
  | cons d rest ih =>
      have hFirst := d.total_tally_le
      rw [List.map_cons, List.sum_cons, List.length_cons]
      omega

/-- A decision that counts nothing makes no edit. -/
theorem edit?_eq_none_of_total {d : Decision} (h : d.tally.total = 0) : d.edit? = none := by
  cases d with
  | renameEntity span old new => cases h
  | joinName span old new => cases h
  | camelCaseLabel span old new => cases h
  | stripComment kind => rfl
  | keepName joined => rfl
  | keepLabel label => rfl

end Decision

namespace Repair

variable {g : Grammar}

theorem length_entityDecisions_le (code : Text) (span : Span) :
    (entityDecisions code span).length ≤ 1 := by
  rcases entityDecisions_cases code span with h | ⟨new, h⟩
  all_goals simp [h]

theorem length_nameDecisions_le (g : Grammar) (code : Text) (parts : AttributeParts) :
    (nameDecisions g code parts).length ≤ 1 := by
  rcases nameDecisions_cases g code parts with h | ⟨_, _, _, -, h | ⟨h, -⟩⟩
  all_goals simp [h]

theorem length_labelDecisions_le (g : Grammar) (code : Text) (sides : List Decision) (span : Span) :
    (labelDecisions g code sides span).length ≤ 1 := by
  rcases labelDecisions_cases g code sides span with h | h | ⟨new, h⟩
  all_goals simp [h]

/-- Two names and a label are the most that one line has to decide on. -/
theorem length_codeDecisions_le (g : Grammar) (code : Text) (kind : LineKind) :
    (codeDecisions g code kind).length ≤ 3 := by
  cases kind with
  | entityHeader name => exact Nat.le_trans (length_entityDecisions_le code name) (by decide)
  | entityAttribute parts => exact Nat.le_trans (length_nameDecisions_le g code parts) (by decide)
  | relationship parts =>
      have hLeft := length_entityDecisions_le code parts.left
      have hRight := length_entityDecisions_le code parts.right
      simp only [codeDecisions]
      split
      next span _ =>
        have hLabel := length_labelDecisions_le g code
          (entityDecisions code parts.left ++ entityDecisions code parts.right) span
        simp only [List.length_append]
        omega
      next =>
        rw [List.length_append]
        omega
  | entityFooter => exact Nat.zero_le 3
  | directive => exact Nat.zero_le 3
  | other => exact Nat.zero_le 3

theorem length_decisions_le (g : Grammar) (content : Text) (reading : Reading) :
    (decisions g content reading).length ≤ 4 := by
  have hCode := length_codeDecisions_le g (reading.code content) reading.kind
  rw [decisions, List.length_append]
  split
  · rw [List.length_singleton]
    omega
  · rw [List.length_nil]
    omega

/-- Something of a line with a comment is no code. -/
theorem code_ne_of_hasComment {state : BlockState} {content : Text}
    (h : g.isDirective content = false) (hSome : (readLine g state content).hasComment = true) :
    (readLine g state content).code content ≠ content := by
  intro hSame
  rw [code_of_not_directive h] at hSame
  rw [readLine_of_not_directive h, decide_eq_true_eq, hSame] at hSome
  exact Nat.lt_irrefl _ hSome

/-- A line that stays as it is has nothing to be repaired on it. -/
theorem clean_of_unchanged {state : BlockState} {line : Line}
    (h : (Step.of g state line).newLine.body = line.body) :
    (Sighting.of g state line.content).Clean g := by
  cases hPass : (readLine g state line.content).kind.isPassThrough with
  | true =>
      exact ⟨settled_of_passThrough hPass, fun hNot => absurd (hPass.symm.trans hNot) (by decide)⟩
  | false =>
      obtain ⟨new, hNew, -, -, hBody⟩ := exists_newCode hPass
      have hSettled (hPrefix : (readLine g state line.content).code line.content <+: new) :=
        settled_of_prefix (laid_readLine g state line.content) (fun _ => head_code) (hNew ▸ hPrefix)
      have hOld : line.body = (splitIndent line.body).1 ++ line.content := (splitIndent_spec _).1
      generalize (splitIndent line.body).1 = indent at hOld hBody
      have hCode : (readLine g state line.content).code line.content <+: line.content :=
        ⟨_, Text.takeBytes_append_dropBytes _ _⟩
      rw [h] at hBody
      cases hComment : (readLine g state line.content).hasComment with
      | false =>
          rw [hComment, if_neg Bool.false_ne_true] at hBody
          have hContent : line.content = new := List.append_cancel_left (hOld.symm.trans hBody)
          exact ⟨hSettled (hContent ▸ hCode), fun _ => hComment⟩
      | true =>
          rw [hComment, if_pos rfl] at hBody
          have hLeads : line.content <+: new := by
            have hTrimmed := Text.trimEnd_prefix (indent ++ new)
            rwa [← hBody, hOld, List.prefix_append_right_inj] at hTrimmed
          have hSame := newCode_of_settled (hSettled (hCode.trans hLeads))
          rw [← hNew] at hSame
          have hWhole : line.content <+: (readLine g state line.content).code line.content :=
            hSame ▸ hLeads
          exact absurd (hCode.eq_of_length_le hWhole.length_le)
            (code_ne_of_hasComment (not_directive_of_kind hPass) hComment)

/-- A line on which nothing is counted has nothing to be repaired on it. -/
theorem clean_of_total_eq_zero {state : BlockState} {line : Line}
    (h : (Step.of g state line).tally.total = 0) : (Sighting.of g state line.content).Clean g := by
  have hNone : ∀ d ∈ (Step.of g state line).decisions, d.tally.total = 0 := by
    rw [Step.tally, Tally.total_sum, List.map_map, List.sum_eq_zero_iff_forall_eq_nat] at h
    exact fun d hd => h _ (List.mem_map_of_mem hd)
  have hDecisions : (Step.of g state line).decisions =
      decisions g line.content (readLine g state line.content) := rfl
  rw [hDecisions, decisions] at hNone
  refine ⟨List.filterMap_eq_nil_iff.mpr fun d hd => ?_, fun hPass => ?_⟩
  · exact Decision.edit?_eq_none_of_total (hNone d (List.mem_append_left _ hd))
  · apply Bool.eq_false_iff.mpr
    intro hComment
    have hStrip := hNone (.stripComment (readLine g state line.content).kind)
      (List.mem_append_right _ ?_)
    · cases hStrip
    · have hBoth : ((readLine g state line.content).hasComment &&
          !(readLine g state line.content).kind.isPassThrough) = true := by
        rw [show (readLine g state line.content).kind.isPassThrough = false from hPass,
          show (readLine g state line.content).hasComment = true from hComment]
        rfl
      rw [if_pos hBoth]
      exact List.mem_singleton_self _

end Repair

/-- What is counted on one line, against its body. -/
structure Step.Accounted (step : Step) : Prop where
  total_le : step.tally.total ≤ 4
  changed_iff : step.isChanged = true ↔ step.tally.total ≠ 0

namespace Repair

variable {g : Grammar}

theorem accounted_step (g : Grammar) (state : BlockState) (line : Line) :
    (Step.of g state line).Accounted := by
  have hClean : (Step.of g state line).isChanged = false ↔
      (Sighting.of g state line.content).Clean g := by
    rw [Step.isChanged_eq_false_iff]
    exact ⟨fun h => clean_of_unchanged (congrArg Line.body h), fun h => (unchanged_of_clean h).1⟩
  have hTotal : (Step.of g state line).tally.total = 0 ↔
      (Sighting.of g state line.content).Clean g :=
    ⟨clean_of_total_eq_zero, fun h => by rw [(unchanged_of_clean h).2]; rfl⟩
  refine ⟨?_, ?_⟩
  · rw [Step.tally, Tally.total_sum, List.map_map]
    have hLength : (Step.of g state line).decisions.length ≤ 4 := length_decisions_le g _ _
    exact (Decision.sum_total_tally_le _).trans hLength
  · rw [ne_eq, hTotal, ← hClean, Bool.not_eq_false]

theorem accounted_of_mem {state : BlockState} {lines : List Line} {step : Step}
    (h : step ∈ steps g state lines) : step.Accounted := by
  obtain ⟨before, line, rfl⟩ := exists_of_mem_steps h
  exact accounted_step g before line

theorem mem_changedFrom {n number : Nat} {run : List Step} :
    n ∈ changedFrom number run ↔
      ∃ i step, n = number + i ∧ run[i]? = some step ∧ step.isChanged = true := by
  induction run generalizing number with
  | nil => simp [changedFrom]
  | cons step rest ih =>
      have hTail : n ∈ changedFrom (number + 1) rest ↔
          ∃ i later, n = number + (i + 1) ∧ (step :: rest)[i + 1]? = some later ∧
            later.isChanged = true := by
        simp only [ih, List.getElem?_cons_succ, Nat.add_assoc, Nat.add_comm 1]
      have hHead : (∃ later, n = number + 0 ∧ (step :: rest)[0]? = some later ∧
          later.isChanged = true) ↔ n = number ∧ step.isChanged = true := by
        simp
      have hCons : n ∈ changedFrom number (step :: rest) ↔
          (n = number ∧ step.isChanged = true) ∨ n ∈ changedFrom (number + 1) rest := by
        rw [changedFrom]
        split
        next hChanged => simp [hChanged]
        next hSame => simp [hSame]
      rw [hCons, hTail, ← hHead]
      constructor
      · rintro (⟨later, hLater⟩ | ⟨i, later, hLater⟩)
        · exact ⟨0, later, hLater⟩
        · exact ⟨i + 1, later, hLater⟩
      · rintro ⟨_ | i, later, hLater⟩
        · exact Or.inl ⟨later, hLater⟩
        · exact Or.inr ⟨i, later, hLater⟩

theorem pairwise_changedFrom (number : Nat) (run : List Step) :
    (changedFrom number run).Pairwise (· < ·) := by
  induction run generalizing number with
  | nil => exact .nil
  | cons step rest ih =>
      rw [changedFrom]
      split
      next =>
        refine .cons (fun n hn => ?_) (ih (number + 1))
        obtain ⟨i, -, rfl, -⟩ := mem_changedFrom.mp hn
        omega
      next => exact ih (number + 1)

theorem repairCount_report (run : List Step) :
    (report run).repairCount = (run.map fun step => step.tally.total).sum := by
  rw [Report.repairCount, report, Tally.total_sum, List.map_map]
  rfl

/-- Every changed line is counted at least once and at most four times. -/
theorem countP_isChanged_le {run : List Step} (h : ∀ step ∈ run, step.Accounted) :
    run.countP Step.isChanged ≤ (run.map fun step => step.tally.total).sum ∧
      (run.map fun step => step.tally.total).sum ≤ 4 * run.countP Step.isChanged := by
  induction run with
  | nil => exact ⟨Nat.le_refl 0, Nat.le_refl 0⟩
  | cons step rest ih =>
      obtain ⟨hTotal, hChanged⟩ := h step List.mem_cons_self
      obtain ⟨hLow, hHigh⟩ := ih fun later hLater => h later (List.mem_cons_of_mem _ hLater)
      rw [List.countP_cons, List.map_cons, List.sum_cons]
      split
      next hStep =>
        have := hChanged.mp hStep
        omega
      next hStep =>
        have hZero : step.tally.total = 0 := by
          apply Decidable.byContradiction
          exact fun hne => hStep (hChanged.mpr hne)
        omega

/-- A repaired text is the text itself only if no line of it is changed: the new lines cannot make up
for each other, since each keeps its ending. -/
theorem normalize_eq_self_iff (g : Grammar) (t : Text) :
    normalize g t = t ↔ ∀ step ∈ repairRun g t, step.isChanged = false := by
  have hOld := map_line_repairRun g t
  have hLines : (∀ step ∈ repairRun g t, step.isChanged = false) ↔
      (repairRun g t).map Step.newLine = splitLines t := by
    rw [← hOld, List.map_inj_left]
    exact forall₂_congr fun step _ => Step.isChanged_eq_false_iff
  rw [hLines]
  constructor
  · intro h
    obtain ⟨dropped, hNew, -⟩ := newLines_eq g t
    have hLength := congrArg List.length hNew
    rw [h, List.length_append, List.length_map, ← hOld, List.length_map] at hLength
    have hNil : dropped = [] := List.length_eq_zero_iff.mp (by omega)
    rw [hNew, h, hNil, List.append_nil]
  · intro h
    rw [normalize, output, h, joinLines_splitLines]

end Repair

/-- The report of the run over a text says what the run did: how many lines there are, which of them
it changed, and how often it repaired what. -/
structure Report.Truthful (g : Grammar) (t : Text) : Prop where
  lines : (repairRun g t).map Step.line = splitLines t
  linesTotal : (repairReport g t).linesTotal = (splitLines t).length
  increasing : (repairReport g t).changedLines.Pairwise (· < ·)
  bounds : ∀ n ∈ (repairReport g t).changedLines, 1 ≤ n ∧ n ≤ (repairReport g t).linesTotal
  changed : ∀ n, n ∈ (repairReport g t).changedLines ↔
    ∃ i step, n = i + 1 ∧ (repairRun g t)[i]? = some step ∧ step.body ≠ step.line.body
  counted : ∀ n, n ∈ (repairReport g t).changedLines ↔
    ∃ i step, n = i + 1 ∧ (repairRun g t)[i]? = some step ∧ 1 ≤ step.tally.total
  tally : (repairReport g t).tally = Tally.sum ((repairRun g t).map Step.tally)
  atLeast : (repairReport g t).linesChanged ≤ (repairReport g t).repairCount
  atMost : (repairReport g t).repairCount ≤ 4 * (repairReport g t).linesChanged
  clean_iff_normalize : (repairReport g t).isClean = true ↔ normalize g t = t
  clean_iff_repairCount : (repairReport g t).isClean = true ↔ (repairReport g t).repairCount = 0
  commentsStripped : (repairReport g t).tally.commentsStripped =
    (Repair.extent g t).events.countP (Log.Event.isDebug "Stripped trailing comment".toList)
  entityNamesRepaired : (repairReport g t).tally.entityNamesRepaired =
    (Repair.extent g t).events.countP (Log.Event.isDebug "Repaired entity name".toList)
  attributeNamesJoined : (repairReport g t).tally.attributeNamesJoined =
    (Repair.extent g t).events.countP (Log.Event.isDebug "Joined split attribute name".toList)
  labelsCamelCased : (repairReport g t).tally.labelsCamelCased =
    (Repair.extent g t).events.countP (Log.Event.isDebug "Camel-cased label".toList)

theorem truthful_repairReport (g : Grammar) (t : Text) : Report.Truthful g t := by
  have hLines := Repair.map_line_repairRun g t
  have hLength := Repair.length_repairRun g t
  have hAccounted : ∀ step ∈ repairRun g t, step.Accounted := fun step hStep =>
    Repair.accounted_of_mem hStep
  have hChanged (n : Nat) : n ∈ (repairReport g t).changedLines ↔
      ∃ i step, n = i + 1 ∧ (repairRun g t)[i]? = some step ∧ step.isChanged = true := by
    rw [repairReport, Repair.report, Repair.mem_changedFrom]
    simp only [Nat.add_comm 1]
  have hCount : (repairReport g t).linesChanged = (repairRun g t).countP Step.isChanged :=
    Repair.length_changedFrom 1 (repairRun g t)
  have hTotal : (repairReport g t).repairCount =
      ((repairRun g t).map fun step => step.tally.total).sum :=
    Repair.repairCount_report (repairRun g t)
  obtain ⟨hLow, hHigh⟩ := Repair.countP_isChanged_le hAccounted
  rw [← hCount, ← hTotal] at hLow hHigh
  have hClean : (repairReport g t).isClean = true ↔ (repairReport g t).linesChanged = 0 := by
    rw [Report.isClean, List.isEmpty_iff, Report.linesChanged, List.length_eq_zero_iff]
  refine {
    lines := hLines
    linesTotal := hLength
    increasing := Repair.pairwise_changedFrom 1 (repairRun g t)
    bounds := fun n hn => ?_
    changed := fun n => ?_
    counted := fun n => ?_
    tally := rfl
    atLeast := hLow
    atMost := hHigh
    clean_iff_normalize := ?_
    clean_iff_repairCount := by rw [hClean]; omega
    commentsStripped := ?_
    entityNamesRepaired := ?_
    attributeNamesJoined := ?_
    labelsCamelCased := ?_ }
  · obtain ⟨i, step, rfl, hStep, -⟩ := (hChanged n).mp hn
    have hIndex := (List.getElem?_eq_some_iff.mp hStep).1
    exact ⟨Nat.succ_pos i, hIndex⟩
  · rw [hChanged]
    simp only [Step.isChanged, bne_iff_ne]
  · rw [hChanged]
    refine exists₂_congr fun i step => and_congr_right fun _ => and_congr_right fun hStep => ?_
    rw [(hAccounted step (List.mem_of_getElem? hStep)).changed_iff, Nat.one_le_iff_ne_zero]
  · rw [Repair.normalize_eq_self_iff, ← Repair.changedFrom_eq_nil_iff, Report.isClean,
      List.isEmpty_iff]
    rfl
  · exact (Repair.countP_isDebug_eq _ Tally.commentsStripped rfl (fun _ _ => rfl)
      (fun d => by cases d <;> rfl) g t).symm
  · exact (Repair.countP_isDebug_eq _ Tally.entityNamesRepaired rfl (fun _ _ => rfl)
      (fun d => by cases d <;> rfl) g t).symm
  · exact (Repair.countP_isDebug_eq _ Tally.attributeNamesJoined rfl (fun _ _ => rfl)
      (fun d => by cases d <;> rfl) g t).symm
  · exact (Repair.countP_isDebug_eq _ Tally.labelsCamelCased rfl (fun _ _ => rfl)
      (fun d => by cases d <;> rfl) g t).symm

end ErDiagram
