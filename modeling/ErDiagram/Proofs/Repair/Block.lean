import ErDiagram.Proofs.Repair.Trace

/-!
The state of the block over a run. One relation says which lines can stand in a state and which state
each of them leaves; what a run tells about its blocks follows from that line by line. No property of
the grammar is needed.
-/

namespace ErDiagram

namespace LineKind

def isHeader : LineKind → Bool
  | .entityHeader _ => true
  | _ => false

def isFooter : LineKind → Bool
  | .entityFooter => true
  | _ => false

/-- Whether lines of the kind neither open a block nor end one. -/
def keepsBlock : LineKind → Bool
  | .entityAttribute _ => true
  | .directive => true
  | .other => true
  | _ => false

end LineKind

/-- The lines that can stand in a state, and the state that they leave. A header names its entity by a
part of the line. -/
inductive BlockState.Transition (g : Grammar) : BlockState → Text → LineKind → BlockState → Prop where
  | entityHeader (before : BlockState) (content : Text) (name : Span) :
      Transition g before content (.entityHeader name) (.inside (content.slice name))
  | entityFooter (entity content : Text) :
      Transition g (.inside entity) content .entityFooter .outside
  | entityAttribute (entity content : Text) (parts : AttributeParts) :
      Transition g (.inside entity) content (.entityAttribute parts) (.inside entity)
  | relationship (before : BlockState) (content : Text) (parts : RelationshipParts) :
      Transition g before content (.relationship parts) .outside
  | directive (before : BlockState) {content : Text} (hDirective : g.isDirective content = true) :
      Transition g before content .directive before
  | other (content : Text) : Transition g .outside content .other .outside

namespace BlockState

variable {g : Grammar}

/-- The name of a header stands in the line where it stands in the code. -/
theorem slice_header {code content : Text} {name : Span} (h : Reading.header? g code = some name)
    (hCode : code <+: content) : code.slice name = content.slice name := by
  obtain ⟨text, rest, rfl, -, rfl⟩ := Reading.exists_of_header? h
  obtain ⟨cut, rfl⟩ := hCode
  have hSlice (more : Text) : Text.slice (text ++ more) ⟨0, text.size⟩ = text :=
    Text.slice_of_eq (a := []) rfl rfl (Nat.zero_add _).symm
  rw [hSlice, List.append_assoc, hSlice]

theorem transition_kindOf (state : BlockState) {code content : Text} (hCode : code <+: content) :
    Transition g state content (Reading.kindOf g state.isInside code)
      (state.next code (Reading.kindOf g state.isInside code)) := by
  generalize hKind : Reading.kindOf g state.isInside code = kind
  cases hKind ▸ Reading.found_kindOf g state.isInside code with
  | entityHeader hHeader =>
      rw [next, slice_header hHeader hCode]
      exact .entityHeader state content _
  | relationship hParts hWord => exact .relationship state content _
  | entityFooter hInside hBrace =>
      cases state with
      | outside => cases hInside
      | inside entity => exact .entityFooter entity content
  | entityAttribute hInside hBrace hRelationship hHeader =>
      cases state with
      | outside => cases hInside
      | inside entity => exact .entityAttribute entity content _
  | other hOutside hRelationship hHeader =>
      cases state with
      | outside => exact .other content
      | inside entity => cases hOutside

/-- Every line that is read makes a transition. -/
theorem transition_after (g : Grammar) (state : BlockState) (content : Text) :
    Transition g state content (readLine g state content).kind (state.after g content) := by
  cases hDirective : g.isDirective content with
  | true =>
      rw [after, readLine_of_directive hDirective]
      exact .directive state hDirective
  | false =>
      obtain ⟨cut, hCut, -⟩ := Comment.exists_strip g.commentMarker content
      rw [after, code_of_not_directive hDirective, kind_of_not_directive hDirective]
      exact transition_kindOf state ⟨cut, hCut.symm⟩

/-- What a transition does to an entity: a header names it, or it was there and nothing ends it. -/
theorem Transition.eq_inside_iff {before after : BlockState} {content : Text} {kind : LineKind}
    (h : Transition g before content kind after) (entity : Text) :
    after = .inside entity ↔
      (∃ name, kind = .entityHeader name ∧ content.slice name = entity) ∨
        (before = .inside entity ∧ kind.keepsBlock = true) := by
  cases h with
  | entityHeader before content name => simp [LineKind.keepsBlock]
  | entityFooter entity content => simp [LineKind.keepsBlock]
  | entityAttribute entity content parts => simp [LineKind.keepsBlock]
  | relationship before content parts => simp [LineKind.keepsBlock]
  | directive before hDirective => simp [LineKind.keepsBlock]
  | other content => simp [LineKind.keepsBlock]

/-- The number of open blocks. -/
def openBlocks : BlockState → Nat
  | .outside => 0
  | .inside _ => 1

end BlockState

namespace Sighting

variable {g : Grammar}

theorem transition_of_mem {state : BlockState} {contents : List Text} {s : Sighting}
    (h : s ∈ sightings g state contents) :
    BlockState.Transition g s.before s.content s.reading.kind s.after := by
  obtain ⟨before, content, -, rfl⟩ := exists_of_mem_sightings h
  exact BlockState.transition_after g before content

/-- Of some lines, the last one that opens a block or ends one is a header with a name. -/
def LastOpens (entity : Text) (run : List Sighting) : Prop :=
  ∃ front s back name, run = front ++ s :: back ∧ s.reading.kind = .entityHeader name ∧
    s.content.slice name = entity ∧ ∀ later ∈ back, later.reading.kind.keepsBlock = true

theorem lastOpens_cons {entity : Text} {s : Sighting} {run : List Sighting} :
    LastOpens entity (s :: run) ↔
      ((∃ name, s.reading.kind = .entityHeader name ∧ s.content.slice name = entity) ∧
          ∀ later ∈ run, later.reading.kind.keepsBlock = true) ∨
        LastOpens entity run := by
  constructor
  · rintro ⟨_ | ⟨first, front⟩, header, back, name, hRun, hKind, hName, hBack⟩
    · obtain ⟨rfl, rfl⟩ := List.cons.inj hRun
      exact Or.inl ⟨⟨name, hKind, hName⟩, hBack⟩
    · obtain ⟨rfl, rfl⟩ := List.cons.inj hRun
      exact Or.inr ⟨front, header, back, name, rfl, hKind, hName, hBack⟩
  · rintro (⟨⟨name, hKind, hName⟩, hBack⟩ | ⟨front, header, back, name, rfl, hRest⟩)
    · exact ⟨[], s, run, name, rfl, hKind, hName, hBack⟩
    · exact ⟨s :: front, header, back, name, rfl, hRest⟩

/-- The block that lines leave open is the one that the last of them to open or end one opens, or the
one that was open before, if none of them does. -/
theorem foldl_after_eq_inside_iff (state : BlockState) (contents : List Text) (entity : Text) :
    contents.foldl (BlockState.after g) state = .inside entity ↔
      LastOpens entity (sightings g state contents) ∨
        (state = .inside entity ∧
          ∀ s ∈ sightings g state contents, s.reading.kind.keepsBlock = true) := by
  induction contents generalizing state with
  | nil =>
      have hNone : ¬ LastOpens entity [] := by
        rintro ⟨front, s, back, name, hRun, -⟩
        simp at hRun
      simp [sightings, hNone]
  | cons content rest ih =>
      have hStep := (BlockState.transition_after g state content).eq_inside_iff entity
      have hRun : sightings g state (content :: rest) =
          Sighting.of g state content :: sightings g (state.after g content) rest := rfl
      rw [List.foldl_cons, ih, hRun, lastOpens_cons, hStep, List.forall_mem_cons, or_and_right,
        and_assoc, ← or_assoc]
      exact or_congr_left or_comm

end Sighting

namespace Log.Event

/-- Whether the event warns of a block that was left open. -/
def tellsUnclosed (e : Event) : Bool :=
  e.level == .warn && "Entity block not closed".toList.isPrefixOf e.message

end Log.Event

theorem Notice.tellsUnclosed_event (notice : Notice) :
    notice.event.tellsUnclosed = match notice with | .unclosed .. => true | _ => false := by
  cases notice with
  | directive => rfl
  | classified kind entity? => rfl
  | unclosed sign entity => cases sign <;> rfl
  | decided decision => cases decision <;> rfl
  | completed report => rfl

namespace Step

variable {g : Grammar}

/-- The blocks that are open before a line and on it are the ones that it ends, those that it shows to
have no footer, and those that are open behind it. -/
theorem openBlocks_balance (state : BlockState) (line : Line) :
    let step := Step.of g state line
    step.before.openBlocks + [step.reading.kind].countP LineKind.isHeader =
      [step.reading.kind].countP LineKind.isFooter + step.unclosed?.toList.length +
        step.after.openBlocks := by
  intro step
  have hStep : BlockState.Transition g step.before line.content step.reading.kind step.after :=
    BlockState.transition_after g state line.content
  rw [unclosed?]
  generalize step.before = before, step.reading.kind = kind, step.after = after at hStep
  cases hStep with
  | entityHeader before content name => cases before <;> rfl
  | entityFooter entity content => rfl
  | entityAttribute entity content parts => rfl
  | relationship before content parts => cases before <;> rfl
  | directive before hDirective => cases before <;> rfl
  | other content => rfl

theorem countP_tellsUnclosed_notices (step : Step) :
    step.notices.countP (Log.Event.tellsUnclosed ∘ Notice.event) =
      step.unclosed?.toList.length := by
  have hUnclosed : step.unclosed?.toList.countP (Log.Event.tellsUnclosed ∘ Notice.event) =
      step.unclosed?.toList.length := by
    rw [List.countP_eq_length]
    intro notice hNotice
    obtain ⟨sign, entity, rfl⟩ := exists_of_mem_unclosed? hNotice
    rw [Function.comp_apply, Notice.tellsUnclosed_event]
  have hReading : [step.readingNotice].countP (Log.Event.tellsUnclosed ∘ Notice.event) = 0 := by
    rw [List.countP_singleton, Function.comp_apply, Notice.tellsUnclosed_event]
    rcases step.readingNotice_cases with hCase | ⟨kind, entity?, hCase⟩
    · rw [hCase]
      rfl
    · rw [hCase]
      rfl
  have hDecisions : step.decisions.countP
      ((Log.Event.tellsUnclosed ∘ Notice.event) ∘ Notice.decided) = 0 := by
    rw [List.countP_eq_zero]
    intro d _
    rw [Function.comp_apply, Function.comp_apply, Notice.tellsUnclosed_event]
    exact Bool.false_ne_true
  rw [countP_notices, hUnclosed, hReading, hDecisions, Nat.add_zero]

end Step

namespace Repair

variable {g : Grammar}

/-- What holds of one line adds up over a run. -/
theorem openBlocks_balance (state : BlockState) (lines : List Line) :
    state.openBlocks + (steps g state lines).countP (·.reading.kind.isHeader) =
      (steps g state lines).countP (·.reading.kind.isFooter) +
        ((steps g state lines).map fun step => step.unclosed?.toList.length).sum +
        (finalState g state lines).openBlocks := by
  induction lines generalizing state with
  | nil => simp [steps, finalState]
  | cons line rest ih =>
      have hStep := Step.openBlocks_balance (g := g) state line
      have hRest := ih (Step.of g state line).after
      have hFinal : finalState g state (line :: rest) =
          finalState g (Step.of g state line).after rest := rfl
      have hBefore : (Step.of g state line).before = state := rfl
      simp only [List.countP_singleton, hBefore] at hStep
      rw [steps_cons, hFinal, List.countP_cons, List.countP_cons, List.map_cons, List.sum_cons]
      omega

theorem countP_tellsUnclosed (g : Grammar) (t : Text) :
    (extent g t).events.countP Log.Event.tellsUnclosed =
      ((repairRun g t).map fun step => step.unclosed?.toList.length).sum +
        (finalState g .outside (splitLines t)).openBlocks := by
  have hEnd (state : BlockState) : (state.entity?.map (Notice.unclosed .atEnd)).toList.countP
      (Log.Event.tellsUnclosed ∘ Notice.event) = state.openBlocks := by
    cases state with
    | outside => rfl
    | inside entity => rfl
  have hDone : [Notice.completed (repairReport g t)].countP
      (Log.Event.tellsUnclosed ∘ Notice.event) = 0 := rfl
  rw [countP_events, hEnd, hDone, Nat.add_zero]
  simp only [Step.countP_tellsUnclosed_notices]

end Repair

/-- Over any lines every line makes a transition, and the block that they leave open is the one that
the last of them to open or end one opens. Over a text, every block that a header opens is ended by a
footer or told to have none. -/
theorem blockState_run (g : Grammar) :
    (∀ contents : List Text,
      (∀ s ∈ sightings g .outside contents,
        BlockState.Transition g s.before s.content s.reading.kind s.after) ∧
      ∀ entity, contents.foldl (BlockState.after g) .outside = .inside entity ↔
        Sighting.LastOpens entity (sightings g .outside contents)) ∧
    ∀ t, (repairRun g t).countP (·.reading.kind.isHeader) =
      (repairRun g t).countP (·.reading.kind.isFooter) +
        (Repair.extent g t).events.countP Log.Event.tellsUnclosed := by
  refine ⟨fun contents => ⟨fun s hs => Sighting.transition_of_mem hs, fun entity => ?_⟩, fun t => ?_⟩
  · rw [Sighting.foldl_after_eq_inside_iff]
    exact or_iff_left fun hOpen => nomatch hOpen.1
  · have hBalance := @Repair.openBlocks_balance g .outside (splitLines t)
    rw [Repair.countP_tellsUnclosed, ← Nat.add_assoc]
    rwa [BlockState.openBlocks, Nat.zero_add] at hBalance

/-- The first of three blocks has a footer, and the second one ends in front of a relationship. The third
one is still open at the end. -/
theorem blockState_run_unclosed :
    let t := "A-B \x7b\n int a\n\x7d\nC \x7b\n%% \x7d\n int c\nC ||--|| D\nD \x7b\n int d".toList
    let contents := (splitLines t).map Line.content
    let field := Sighting.of Grammar.mermaid (.inside "A-B".toList) "int a".toList
    let footer := Sighting.of Grammar.mermaid (.inside "A-B".toList) "\x7d".toList
    let run := repairRun Grammar.mermaid t
    (field ∈ sightings Grammar.mermaid .outside contents ∧
        BlockState.Transition Grammar.mermaid field.before field.content
          field.reading.kind field.after) ∧
      (footer ∈ sightings Grammar.mermaid .outside contents ∧
        BlockState.Transition Grammar.mermaid footer.before footer.content
          footer.reading.kind footer.after) ∧
      contents.foldl (BlockState.after Grammar.mermaid) .outside = .inside "D".toList ∧
      Sighting.LastOpens "D".toList (sightings Grammar.mermaid .outside contents) ∧
      run.countP (·.reading.kind.isHeader) = 3 ∧ run.countP (·.reading.kind.isFooter) = 1 ∧
      (Repair.extent Grammar.mermaid t).events.countP Log.Event.tellsUnclosed = 2 := by
  intro t contents field footer run
  obtain ⟨hRuns, hBlocks⟩ := blockState_run Grammar.mermaid
  obtain ⟨hTransition, hLast⟩ := hRuns contents
  have hField : field ∈ sightings Grammar.mermaid .outside contents := by decide +kernel
  have hFooter : footer ∈ sightings Grammar.mermaid .outside contents := by decide +kernel
  have hOpen : contents.foldl (BlockState.after Grammar.mermaid) .outside = .inside "D".toList := by
    decide +kernel
  have hHeaders : run.countP (·.reading.kind.isHeader) = 3 := by decide +kernel
  have hFooters : run.countP (·.reading.kind.isFooter) = 1 := by decide +kernel
  have hBalance := hBlocks t
  rw [hHeaders, hFooters] at hBalance
  exact ⟨⟨hField, hTransition field hField⟩, ⟨hFooter, hTransition footer hFooter⟩, hOpen,
    (hLast "D".toList).mp hOpen, hHeaders, hFooters, by omega⟩

end ErDiagram
