import ErDiagram.Proofs.Reading.Placed
import ErDiagram.Proofs.Repair.Trace

/-!
What a reading names and what a repair puts in its place. The spans of a reading are sound, so the
edits that a line gets lie within its code and one behind the other. None of them is left out, as many
are applied as are counted, and whatever is outside of them is copied.
-/

namespace ErDiagram

/-- A reading that cuts no character on its way, and whose spans stand in the code as they should. -/
structure Reading.Sound (g : Grammar) (state : BlockState) (content : Text) : Prop where
  uncut : Checked.line g state content = some (readLine g state content, state.after g content)
  boundary : content.hasBoundary (readLine g state content).codeSize = true
  placed : (readLine g state content).kind.Placed g ((readLine g state content).code content)

theorem Reading.sound {g : Grammar} (hg : g.WellFormed) (state : BlockState) (content : Text) :
    Reading.Sound g state content := by
  cases hDirective : g.isDirective content with
  | true =>
      refine ⟨Checked.line_eq g state content, ?_, ?_⟩
      · rw [readLine_of_directive hDirective]
        exact Text.hasBoundary_of_eq (List.append_nil content).symm rfl
      · rw [readLine_of_directive hDirective]
        trivial
  | false =>
      obtain ⟨cut, hCut, -⟩ := Comment.exists_strip g.commentMarker content
      refine ⟨Checked.line_eq g state content, ?_, ?_⟩
      · rw [readLine_of_not_directive hDirective]
        exact Text.hasBoundary_of_eq hCut rfl
      · rw [code_of_not_directive hDirective, kind_of_not_directive hDirective]
        exact LineKind.placed_kindOf hg state.isInside _

/-- How many repairs were made in the code of lines. -/
def Tally.inCode (t : Tally) : Nat :=
  t.entityNamesRepaired + t.attributeNamesJoined + t.labelsCamelCased

theorem Tally.inCode_sum (tallies : List Tally) :
    (sum tallies).inCode = (tallies.map inCode).sum := by
  refine sum_eq inCode rfl (fun a b => ?_) tallies
  change (add a b).inCode = _
  simp only [add, inCode]
  omega

namespace Step

/-- The line in front of its comment. -/
def code (step : Step) : Text :=
  step.reading.code step.line.content

/-- The replacements that were decided. -/
def edits (step : Step) : List Edit :=
  step.decisions.filterMap Decision.edit?

/-- Those of the edits that are applied. -/
def applied (step : Step) : List Edit :=
  Edit.select step.code.size 0 (Edit.sort step.edits)

def stripsComment (step : Step) : Bool :=
  step.reading.hasComment && !step.reading.kind.isPassThrough

/-- A step that makes every replacement that it counts and changes nothing else. The new body is the
indentation and the code with a replacement in the place of each edit; where only a comment was on
the line, the indentation goes as well. -/
structure Spliced (step : Step) : Prop where
  within : ∀ edit ∈ step.edits, edit.span.Within step.code
  disjoint : step.edits.Pairwise fun a b => a.span.Before b.span
  applied : step.applied = step.edits
  uncut : Edit.applyAll? step.code step.edits = some (Edit.applyAll step.code step.edits)
  whole : step.reading.hasComment = false → step.code = step.line.content
  body : ∃ stretches, step.code = Stretch.before stretches ∧
    step.edits = Stretch.edits 0 stretches ∧
    step.body =
      if step.reading.kind.isPassThrough then step.line.body
      else if step.reading.hasComment ∧ step.code = [] then []
      else (splitIndent step.line.body).1 ++ Stretch.after stretches
  inCode : step.tally.inCode = step.edits.length
  commentsStripped : step.tally.commentsStripped = step.stripsComment.toNat

end Step

theorem Stretch.pairwise_edits (start : Nat) (stretches : List Stretch) :
    (edits start stretches).Pairwise fun a b => a.span.Before b.span := by
  induction stretches generalizing start with
  | nil => exact .nil
  | cons s rest ih =>
      obtain ⟨old, _ | text⟩ := s
      · exact edits_kept start old rest ▸ ih (start + old.size)
      · rw [edits_replaced]
        exact .cons (fun later hLater => start_le_of_mem_edits hLater) (ih (start + old.size))

namespace Repair

variable {g : Grammar} {code : Text} {kind : LineKind}

/-- The code of a line in stretches, each edit on one of its own. -/
theorem exists_stretches (h : Laid g code kind) (hHead : ∀ c, code.head? = some c → isBlank c = false) :
    ∃ stretches, code = Stretch.before stretches ∧
      (codeDecisions g code kind).filterMap Decision.edit? = Stretch.edits 0 stretches := by
  have hNone {kind : LineKind} (hSettled : Settled g code kind) : ∃ stretches,
      code = Stretch.before stretches ∧
        (codeDecisions g code kind).filterMap Decision.edit? = Stretch.edits 0 stretches :=
    ⟨[⟨code, none⟩], by simp, hSettled⟩
  cases h with
  | entityHeader name rest =>
      refine ⟨[⟨name, EntityName.repair? name⟩, ⟨rest, none⟩], by simp, ?_⟩
      rw [edits_entityHeader]
      exact (List.append_nil _).symm
  | entityAttribute =>
      rcases attribute_cases g hHead with hSettled | ⟨s, joined, -, rfl, hEdits, -, -⟩
      · exact hNone hSettled
      · refine ⟨[⟨s.front, none⟩, ⟨s.name, some joined⟩, ⟨s.rest, none⟩],
          by simp [NamePlace.text], ?_⟩
        rw [hEdits]
        simp [Stretch.edits, Stretch.edit?]
  | @relationship s hValid =>
      exact ⟨s.stretches (s.newLabel? g), (s.before_stretches _).symm, edits_relationship g s⟩
  | idle hDecisions => exact hNone (by rw [Settled, hDecisions]; rfl)

theorem span_of_entityDecisions {span : Span} {d : Decision} {edit : Edit}
    (hd : d ∈ entityDecisions code span) (hEdit : d.edit? = some edit) : edit.span = span := by
  rcases entityDecisions_cases code span with h | ⟨new, h⟩
  · rw [h] at hd
    cases hd
  · obtain rfl := List.mem_singleton.mp (h ▸ hd)
    exact congrArg Edit.span (Option.some.inj hEdit).symm

theorem span_of_labelDecisions {sides : List Decision} {span : Span} {d : Decision} {edit : Edit}
    (hd : d ∈ labelDecisions g code sides span) (hEdit : d.edit? = some edit) : edit.span = span := by
  rcases labelDecisions_cases g code sides span with h | h | ⟨new, h⟩
  · rw [h] at hd
    cases hd
  · obtain rfl := List.mem_singleton.mp (h ▸ hd)
    cases hEdit
  · obtain rfl := List.mem_singleton.mp (h ▸ hd)
    exact congrArg Edit.span (Option.some.inj hEdit).symm

/-- A joined name replaces everything from the first piece to the last. -/
theorem within_of_nameDecisions {parts : AttributeParts} (h : parts.Placed code) {d : Decision}
    {edit : Edit} (hd : d ∈ nameDecisions g code parts) (hEdit : d.edit? = some edit) :
    edit.span.Within code := by
  rcases nameDecisions_cases g code parts with
    hNone | ⟨first, second, more, hName, hKeep | ⟨hJoin, -⟩⟩
  · rw [hNone] at hd
    cases hd
  · obtain rfl := List.mem_singleton.mp (hKeep ▸ hd)
    cases hEdit
  · obtain rfl := List.mem_singleton.mp (hJoin ▸ hd)
    obtain rfl := Option.some.inj hEdit
    have hPieces : ∀ span ∈ first :: second :: more, span.Within code := fun span hSpan =>
      h.within span (List.mem_append_left _ (List.mem_append_right _ (hName ▸ hSpan)))
    have hOrder : (first :: second :: more).Pairwise Span.Before :=
      hName ▸ (List.pairwise_append.mp h.leading).2.1
    have hLast : (second :: more).getLast (by simp) ∈ second :: more := List.getLast_mem _
    exact (hPieces first List.mem_cons_self).join (hPieces _ (List.mem_cons_of_mem _ hLast))
      (List.rel_of_pairwise_cons hOrder hLast)

theorem within_of_edit (h : kind.Placed g code) {edit : Edit}
    (hEdit : edit ∈ (codeDecisions g code kind).filterMap Decision.edit?) :
    edit.span.Within code := by
  obtain ⟨d, hd, hSome⟩ := List.mem_filterMap.mp hEdit
  cases kind with
  | entityHeader name => exact span_of_entityDecisions hd hSome ▸ h
  | entityAttribute parts => exact within_of_nameDecisions h hd hSome
  | relationship parts =>
      rcases exists_part_of_mem hd with hLeft | hRight | ⟨sides, span, hSpan, hLabel⟩
      · exact span_of_entityDecisions hLeft hSome ▸ h.left
      · exact span_of_entityDecisions hRight hSome ▸ h.right
      · exact span_of_labelDecisions hLabel hSome ▸ h.label span hSpan
  | entityFooter => cases hd
  | directive => cases hd
  | other => cases hd

/-- Each decision in the code of a line that counts makes one edit. -/
theorem inCode_tally {d : Decision} : d.tally.inCode = (d.edit?).toList.length := by
  cases d with
  | renameEntity span old new => rfl
  | joinName span old new => rfl
  | camelCaseLabel span old new => rfl
  | stripComment kind => rfl
  | keepName joined => rfl
  | keepLabel label => rfl

theorem inCode_step (step : Step) : step.tally.inCode = step.edits.length := by
  rw [Step.tally, Tally.inCode_sum, Step.edits, List.map_map]
  induction step.decisions with
  | nil => rfl
  | cons d rest ih =>
      rw [List.map_cons, List.sum_cons, ih, Function.comp_apply, inCode_tally, List.filterMap_cons]
      cases d.edit? with
      | none => exact Nat.zero_add _
      | some edit => exact Nat.add_comm ..

/-- In the code of a line no comment is stripped. -/
theorem commentsStripped_codeDecisions {d : Decision} (h : d ∈ codeDecisions g code kind) :
    d.tally.commentsStripped = 0 := by
  cases d with
  | renameEntity span old new => rfl
  | joinName span old new => rfl
  | camelCaseLabel span old new => rfl
  | stripComment stripped => exact absurd h (stripComment_notMem stripped g code kind)
  | keepName joined => rfl
  | keepLabel label => rfl

theorem commentsStripped_step (g : Grammar) (state : BlockState) (line : Line) :
    (Step.of g state line).tally.commentsStripped = (Step.of g state line).stripsComment.toNat := by
  have hCode : ((codeDecisions g ((readLine g state line.content).code line.content)
      (readLine g state line.content).kind).map fun d => d.tally.commentsStripped).sum = 0 := by
    rw [List.sum_eq_zero_iff_forall_eq_nat]
    intro n hn
    obtain ⟨d, hd, rfl⟩ := List.mem_map.mp hn
    exact commentsStripped_codeDecisions hd
  have hDecisions : (Step.of g state line).decisions =
      codeDecisions g ((readLine g state line.content).code line.content)
        (readLine g state line.content).kind ++
      if (Step.of g state line).stripsComment then
        [.stripComment (readLine g state line.content).kind] else [] := rfl
  rw [Step.tally, Tally.sum_eq Tally.commentsStripped rfl fun _ _ => rfl, List.map_map, hDecisions,
    List.map_append, List.sum_append]
  refine (congrArg (· + _) hCode).trans ?_
  cases (Step.of g state line).stripsComment with
  | true => rfl
  | false => rfl

/-- Where no comment is found the code is the whole line. -/
theorem code_of_no_comment {state : BlockState} {content : Text}
    (h : (readLine g state content).hasComment = false) :
    (readLine g state content).code content = content := by
  cases hDirective : g.isDirective content with
  | true =>
      rw [readLine_of_directive hDirective]
      exact Text.takeBytes_of_eq (List.append_nil content).symm rfl
  | false =>
      rcases @code_cases g state content hDirective with ⟨-, hCode, -⟩ | ⟨hSome, -, -⟩
      · exact hCode
      · rw [h] at hSome
        cases hSome

/-- The new body of a line, once its edits are known to replace stretches of its code. -/
theorem body_of_stretches {state : BlockState} {line : Line} {stretches : List Stretch}
    (hCode : (Step.of g state line).code = Stretch.before stretches)
    (hStretches : (codeDecisions g (Step.of g state line).code
      (Step.of g state line).reading.kind).filterMap Decision.edit? = Stretch.edits 0 stretches)
    (hNil : (Step.of g state line).code = [] → Stretch.edits 0 stretches = []) :
    (Step.of g state line).body =
      if (Step.of g state line).reading.kind.isPassThrough then line.body
      else if (Step.of g state line).reading.hasComment ∧ (Step.of g state line).code = [] then []
      else (splitIndent line.body).1 ++ Stretch.after stretches := by
  cases hPass : (Step.of g state line).reading.kind.isPassThrough with
  | true => exact newBody_of_passThrough hPass
  | false =>
      obtain ⟨new, hNew, hEdges, -, hBody⟩ := exists_newCode hPass
      have hAfter : new = Stretch.after stretches := by
        rw [hNew, newCode]
        exact (congrArg (Edit.applyAll _) hStretches).trans (Stretch.applyAll_edits hCode)
      rw [if_neg Bool.false_ne_true, ← hAfter]
      refine hBody.trans ?_
      rcases @code_cases g state line.content (not_directive_of_kind hPass) with
        ⟨hNone, -, -⟩ | ⟨hSome, hTrim, -⟩
      · have hReading : (Step.of g state line).reading.hasComment = false := hNone
        rw [hNone, hReading, if_neg Bool.false_ne_true, if_neg (by simp)]
      · have hReading : (Step.of g state line).reading.hasComment = true := hSome
        rw [hSome, hReading, if_pos rfl]
        by_cases hCodeNil : (Step.of g state line).code = []
        · have hSame : new = [] := by
            rw [hNew]
            exact (newCode_of_settled (hStretches.trans (hNil hCodeNil))).trans hCodeNil
          rw [if_pos ⟨rfl, hCodeNil⟩, hSame, List.append_nil]
          exact Text.trimEnd_of_blank (splitIndent_spec line.body).2.1
        · rw [if_neg fun hBoth => hCodeNil hBoth.2]
          exact hEdges.trimEnd_append hTrim (hEdges.ne_nil hCodeNil) _

theorem spliced_step (hg : g.WellFormed) (state : BlockState) (line : Line) :
    (Step.of g state line).Spliced := by
  let step := Step.of g state line
  have hSound := Reading.sound hg state line.content
  obtain ⟨stretches, hCode, hStretches⟩ :=
    exists_stretches (laid_readLine g state line.content) fun _ => head_code
  have hEdits : step.edits = Stretch.edits 0 stretches :=
    (edits_decisions g line.content (readLine g state line.content)).trans hStretches
  have hWithin : ∀ edit ∈ step.edits, edit.span.Within step.code := fun edit hEdit =>
    within_of_edit hSound.placed (hStretches.symm ▸ hEdits ▸ hEdit)
  have hApplied : step.applied = step.edits := by
    have hSize : 0 + (Stretch.before stretches).size ≤ step.code.size :=
      Nat.le_of_eq (by rw [Nat.zero_add, ← hCode]; rfl)
    rw [Step.applied, hEdits, Stretch.sort_edits, Stretch.select_edits (Nat.le_refl 0) hSize]
  have hUncut : (step.applied.all fun edit => step.code.hasBoundary edit.span.start &&
      step.code.hasBoundary edit.span.stop) = true := by
    rw [hApplied, List.all_eq_true]
    intro edit hEdit
    rw [(hWithin edit hEdit).start, (hWithin edit hEdit).stop]
    rfl
  have hNil (hCodeNil : step.code = []) : Stretch.edits 0 stretches = [] := by
    rw [← hEdits, List.eq_nil_iff_forall_not_mem]
    intro edit hEdit
    have hSpan := hCodeNil ▸ hWithin edit hEdit
    have := hSpan.nonempty
    have := hSpan.inside
    rw [Text.size_nil] at this
    omega
  exact {
    within := hWithin
    disjoint := hEdits ▸ Stretch.pairwise_edits 0 stretches
    applied := hApplied
    uncut := if_pos hUncut
    whole := code_of_no_comment
    body := ⟨stretches, hCode, hEdits, body_of_stretches hCode hStretches hNil⟩
    inCode := inCode_step step
    commentsStripped := commentsStripped_step g state line }

/-- Over a run, too, as many repairs are made as are counted. -/
theorem counted_of_spliced {run : List Step} (h : ∀ step ∈ run, step.Spliced) :
    (report run).tally.inCode = (run.map fun step => step.applied.length).sum ∧
      (report run).tally.commentsStripped = run.countP Step.stripsComment := by
  constructor
  · rw [report, Tally.inCode_sum, List.map_map]
    refine congrArg List.sum (List.map_congr_left fun step hStep => ?_)
    rw [Function.comp_apply, (h step hStep).inCode, (h step hStep).applied]
  · rw [report, Tally.sum_eq Tally.commentsStripped rfl fun _ _ => rfl, List.map_map]
    induction run with
    | nil => rfl
    | cons step rest ih =>
        rw [List.map_cons, List.sum_cons, ih fun later hLater => h later (List.mem_cons_of_mem _ hLater),
          Function.comp_apply, (h step List.mem_cons_self).commentsStripped, List.countP_cons]
        cases step.stripsComment with
        | true => exact Nat.add_comm ..
        | false => exact Nat.zero_add _

end Repair

/-- Under every grammar that can be made, whatever line is read in whatever state, no cut leaves the
line or falls inside a character, and every part stands in the code where it should. So on every line
of every text all replacements that are counted are made, and everything outside of them is copied. -/
theorem reading_sound_and_repair_spliced {g : Grammar} (hg : g.IsBuilt) :
    (∀ (state : BlockState) (content : Text), Reading.Sound g state content) ∧
      ∀ t : Text, (∀ step ∈ repairRun g t, step.Spliced) ∧
        (repairReport g t).tally.inCode =
          ((repairRun g t).map fun step => step.applied.length).sum ∧
        (repairReport g t).tally.commentsStripped = (repairRun g t).countP Step.stripsComment := by
  refine ⟨Reading.sound hg.wellFormed, fun t => ?_⟩
  have hSpliced : ∀ step ∈ repairRun g t, step.Spliced := by
    intro step hStep
    obtain ⟨before, line, rfl⟩ := Repair.exists_of_mem_steps hStep
    exact Repair.spliced_step hg.wellFormed before line
  exact ⟨hSpliced, Repair.counted_of_spliced hSpliced⟩

theorem reading_sound_and_repair_spliced_withNotNull :
    let content := "\u2003é-B C ||--o\x7b D : is a // c".toList
    let t := "é-B \x7b // c\r\n\tint a b NN \"ü\"\n\x7d\né-B ||--o\x7b C : is a".toList
    Grammar.withNotNull.IsBuilt ∧
      Reading.Sound Grammar.withNotNull (.inside "é-B".toList) content ∧
      (∀ step ∈ repairRun Grammar.withNotNull t, step.Spliced) ∧
      (repairReport Grammar.withNotNull t).tally.inCode =
        ((repairRun Grammar.withNotNull t).map fun step => step.applied.length).sum ∧
      (repairReport Grammar.withNotNull t).tally.commentsStripped =
        (repairRun Grammar.withNotNull t).countP Step.stripsComment ∧
      ((repairRun Grammar.withNotNull t).map fun step => step.applied.length) = [1, 1, 0, 2] := by
  intro content t
  have hBuilt : Grammar.withNotNull.IsBuilt :=
    Or.inr ⟨Grammar.mermaid.toBuilder.addAll [.keyModifier "NN".toList], rfl⟩
  obtain ⟨hSound, hRun⟩ := reading_sound_and_repair_spliced hBuilt
  obtain ⟨hSpliced, hCode, hComments⟩ := hRun t
  exact ⟨hBuilt, hSound _ content, hSpliced, hCode, hComments, by decide +kernel⟩

end ErDiagram
