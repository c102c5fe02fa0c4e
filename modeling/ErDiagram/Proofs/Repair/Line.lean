import ErDiagram.Proofs.Line
import ErDiagram.Proofs.Repair.Effect
import ErDiagram.Repair.Run

/-!
One line and its repair, read one after the other. Whatever the line is, its new body is read as the
same kind in a state that is the same up to the repair of the entity, and nothing is repaired there.
-/

namespace ErDiagram

/-- A line without its indentation. -/
def Line.content (line : Line) : Text :=
  (splitIndent line.body).2

/-- The state with the entity named as a repaired header names it. -/
def BlockState.repaired : BlockState → BlockState
  | .outside => .outside
  | .inside entity => .inside (EntityName.repair entity)

@[simp] theorem BlockState.isInside_repaired (state : BlockState) :
    state.repaired.isInside = state.isInside := by
  cases state with
  | outside => rfl
  | inside entity => rfl

/-- A line as a run over the contents of lines meets it. -/
structure Sighting where
  content : Text
  before : BlockState
  reading : Reading
  after : BlockState
deriving DecidableEq

namespace Sighting

def of (g : Grammar) (before : BlockState) (content : Text) : Sighting where
  content := content
  before := before
  reading := readLine g before content
  after := before.after g content

/-- The line in front of its comment. -/
def code (s : Sighting) : Text :=
  s.reading.code s.content

/-- Nothing on the line is to be repaired, and a comment stands only where it may. -/
structure Clean (g : Grammar) (s : Sighting) : Prop where
  settled : Repair.Settled g s.code s.reading.kind
  comment : s.reading.kind.isPassThrough = false → s.reading.hasComment = false

/-- The same line before its repair and after. -/
structure Corresponds (first second : Sighting) : Prop where
  kind : first.reading.kind.Matches first.code second.code second.reading.kind
  before : second.before = first.before.repaired
  after : second.after = first.after.repaired
  comment : second.reading.kind.isPassThrough = false → second.reading.hasComment = false

end Sighting

namespace Repair

variable {g : Grammar}

theorem stable_newCode (hg : g.WellFormed) (hInert : g.Inert) {inside : Bool} {code : Text} {kind : LineKind}
    (hReads : Reading.Reads g inside code kind)
    (hHead : ∀ c, code.head? = some c → isBlank c = false)
    (hComment : Comment.find? g.commentMarker code = none)
    (hDirective : g.isDirective code = false) :
    Stable g inside code (newCode g code kind) kind := by
  cases hReads with
  | entityHeader hValid => exact stable_header hInert hValid hComment hDirective
  | relationship hValid hWord => exact stable_relationship hInert hValid hWord hComment hDirective
  | entityFooter hInside hBrace =>
      exact stable_self (.entityFooter hInside hBrace) rfl .entityFooter hComment hDirective
  | entityAttribute hInside hBrace hRelationship hHeader =>
      subst hInside
      exact stable_attribute hg (.entityAttribute rfl hBrace hRelationship hHeader) hHead hComment
        hDirective
  | other hOutside hRelationship hHeader =>
      exact stable_self (.other hOutside hRelationship hHeader) rfl .other hComment hDirective

end Repair

namespace Repair

variable {g : Grammar} {state : BlockState} {content : Text}

/-- No edit comes from a comment. -/
theorem edits_decisions (g : Grammar) (content : Text) (reading : Reading) :
    (decisions g content reading).filterMap Decision.edit? =
      (codeDecisions g (reading.code content) reading.kind).filterMap Decision.edit? := by
  rw [decisions, List.filterMap_append]
  split
  · exact List.append_nil _
  · exact List.append_nil _

/-- The new body of a line that can be changed. -/
theorem newBody_eq {body : Text} {reading : Reading} (hPass : reading.kind.isPassThrough = false) :
    newBody body reading (decisions g (splitIndent body).2 reading) =
      let line := (splitIndent body).1 ++
        newCode g (reading.code (splitIndent body).2) reading.kind
      if reading.hasComment then Text.trimEnd line else line := by
  rw [newBody, if_neg (by simp [hPass])]
  simp only [edits_decisions]
  rfl

theorem newBody_of_passThrough {body : Text} {reading : Reading} {chosen : List Decision}
    (hPass : reading.kind.isPassThrough = true) : newBody body reading chosen = body := by
  rw [newBody, if_pos hPass]

/-- What the repair of the code of a line preserves. -/
theorem stable_of_readLine (hg : g.WellFormed) (hInert : g.Inert)
    (hHead : ∀ c, content.head? = some c → isBlank c = false)
    (hDirective : g.isDirective content = false) :
    let reading := readLine g state content
    let code := reading.code content
    Stable g state.isInside code (newCode g code reading.kind) reading.kind := by
  obtain ⟨cut, hCut, -⟩ := Comment.exists_strip g.commentMarker content
  simp only [code_of_not_directive hDirective, kind_of_not_directive hDirective]
  refine stable_newCode hg hInert ((Reading.reads_iff hg).mpr rfl) (fun c hc => ?_)
    (Comment.find?_strip _ _) ?_
  · refine hHead c ?_
    rw [hCut, List.head?_append, hc, Option.some_or]
  · exact Grammar.isDirective_of_append (hCut ▸ hDirective)

/-- What was read of a line lays out its code. -/
theorem laid_readLine (g : Grammar) (state : BlockState) (content : Text) :
    Laid g ((readLine g state content).code content) (readLine g state content).kind := by
  cases hDirective : g.isDirective content with
  | true => exact .idle (by rw [readLine_of_directive hDirective]; rfl)
  | false =>
      rw [code_of_not_directive hDirective, kind_of_not_directive hDirective]
      exact laid_kindOf g state.isInside _

theorem head_code {line : Line} {reading : Reading} {c : Char}
    (h : (reading.code line.content).head? = some c) : isBlank c = false :=
  (splitIndent_spec line.body).2.2 c (head_of_head_code h)

/-- A line that can be changed gets a new code behind its indentation. -/
theorem exists_newCode {line : Line}
    (hPass : (readLine g state line.content).kind.isPassThrough = false) :
    ∃ new, new = newCode g ((readLine g state line.content).code line.content)
        (readLine g state line.content).kind ∧
      KeepsEdges ((readLine g state line.content).code line.content) new ∧
      (Step.of g state line).newLine.content = new ∧
      (Step.of g state line).newLine.body =
        if (readLine g state line.content).hasComment then
          Text.trimEnd ((splitIndent line.body).1 ++ new)
        else (splitIndent line.body).1 ++ new := by
  obtain ⟨-, hIndent, -⟩ := splitIndent_spec line.body
  obtain ⟨new, hNew, hBody⟩ : ∃ new, new = newCode g
      ((readLine g state line.content).code line.content) (readLine g state line.content).kind ∧
      (Step.of g state line).newLine.body =
        if (readLine g state line.content).hasComment then
          Text.trimEnd ((splitIndent line.body).1 ++ new)
        else (splitIndent line.body).1 ++ new := ⟨_, rfl, newBody_eq hPass⟩
  have hEdges := keepsEdges_newCode (laid_readLine g state line.content) fun _ => head_code
  rw [← hNew] at hEdges
  refine ⟨new, hNew, hEdges, ?_, hBody⟩
  have hNewHead : ∀ c, new.head? = some c → isBlank c = false := by
    intro c hc
    apply Bool.eq_false_iff.mpr
    intro hBlank
    have hOld := head_code (hEdges.head c hc hBlank)
    rw [hBlank] at hOld
    cases hOld
  have hSplit : splitIndent ((splitIndent line.body).1 ++ new) = ((splitIndent line.body).1, new) :=
    splitIndent_append hIndent hNewHead
  rw [Line.content, hBody]
  rcases @code_cases g state line.content (not_directive_of_kind hPass) with
    ⟨hNone, -, -⟩ | ⟨hSome, hTrim, -⟩
  · rw [hNone]
    exact congrArg Prod.snd hSplit
  · rw [hSome, if_pos rfl]
    by_cases hNil : new = []
    · rw [hNil, List.append_nil, Text.trimEnd_of_blank hIndent]
      rfl
    · rw [hEdges.trimEnd_append hTrim hNil]
      exact congrArg Prod.snd hSplit

/-- The new body has no line feed and no carriage return at its end that were not there. -/
theorem sound_newLine (g : Grammar) (state : BlockState) {line : Line} (hSound : line.Sound) :
    (Step.of g state line).newLine.Sound := by
  cases hPass : (readLine g state line.content).kind.isPassThrough with
  | true =>
      have hBody : (Step.of g state line).newLine = line :=
        congrArg (Line.mk · line.ending) (newBody_of_passThrough hPass)
      rw [hBody]
      exact hSound
  | false =>
      obtain ⟨new, -, hEdges, -, hBody⟩ := exists_newCode hPass
      have hOld : line.body = (splitIndent line.body).1 ++ line.content := (splitIndent_spec _).1
      have hNewline : '\n' ∉ (splitIndent line.body).1 ++ new := by
        intro hMem
        refine hSound.newline ?_
        rw [hOld]
        apply (List.mem_append.mp hMem).elim (List.mem_append_left _)
        intro hIn
        exact List.mem_append_right _ (mem_of_mem_code (hEdges.newline hIn))
      rcases @code_cases g state line.content (not_directive_of_kind hPass) with
        ⟨hNone, hCode, -⟩ | ⟨hSome, -, -⟩
      · rw [hNone, if_neg Bool.false_ne_true] at hBody
        refine ⟨hBody ▸ hNewline, fun hEnding hLast => hSound.carriage hEnding ?_⟩
        rw [hCode] at hEdges
        rw [hBody] at hLast
        by_cases hNil : new = []
        · have hContent : line.content = [] :=
            Decidable.byContradiction fun hne => hEdges.ne_nil hne hNil
          rw [hOld, hContent, ← hNil]
          exact hLast
        · rw [List.getLast?_append_of_ne_nil _ hNil] at hLast
          rw [hOld, List.getLast?_append, hEdges.last _ hLast rfl, Option.some_or]
      · rw [hSome, if_pos rfl] at hBody
        obtain ⟨trail, -, hTrail⟩ := Text.exists_trimEnd ((splitIndent line.body).1 ++ new)
        refine ⟨fun hMem => hNewline ?_, fun _ hLast => ?_⟩
        · rw [hTrail]
          exact List.mem_append_left _ (hBody ▸ hMem)
        · rw [hBody] at hLast
          cases Text.last_trimEnd hLast

end Repair

/-- Corresponding lines leave corresponding states. -/
theorem BlockState.next_repaired {old new : Text} {kind kind' : LineKind}
    (h : kind.Matches old new kind') (state : BlockState) :
    state.repaired.next new kind' = (state.next old kind).repaired := by
  cases h with
  | entityHeader hName => rw [BlockState.next, hName]; rfl
  | entityFooter => rfl
  | entityAttribute hTexts => rfl
  | relationship hLeft hOperator hRight hLabel => rfl
  | directive => rfl
  | other => rfl

namespace Sighting

variable {g : Grammar} {state : BlockState}

/-- What has to be known of two contents for the lines to correspond. -/
theorem corresponds_of_matches {content content' : Text}
    (hSame : (readLine g state content).kind.Matches ((readLine g state content).code content)
      ((readLine g state.repaired content').code content') (readLine g state.repaired content').kind)
    (hClean : Clean g (of g state.repaired content')) :
    Corresponds (of g state content) (of g state.repaired content') :=
  ⟨hSame, rfl, BlockState.next_repaired hSame state, hClean.comment⟩

/-- A line that is never changed is seen as it was. -/
theorem corresponds_of_passThrough {content : Text}
    (hPass : (readLine g state content).kind.isPassThrough = true) :
    Corresponds (of g state content) (of g state.repaired content) ∧
      Clean g (of g state.repaired content) := by
  have hReading : readLine g state.repaired content = readLine g state content :=
    readLine_congr state.isInside_repaired
  have hSame : (readLine g state content).kind.Matches ((readLine g state content).code content)
      ((readLine g state content).code content) (readLine g state content).kind ∧
      Repair.Settled g ((readLine g state content).code content) (readLine g state content).kind := by
    cases hKind : (readLine g state content).kind with
    | directive => exact ⟨.directive, rfl⟩
    | other => exact ⟨.other, rfl⟩
    | entityHeader name => rw [hKind] at hPass; cases hPass
    | entityFooter => rw [hKind] at hPass; cases hPass
    | entityAttribute parts => rw [hKind] at hPass; cases hPass
    | relationship parts => rw [hKind] at hPass; cases hPass
  have hClean : Clean g (of g state.repaired content) := by
    refine ⟨?_, fun hNotPass => ?_⟩
    · rw [of, code, hReading]
      exact hSame.2
    · rw [of, hReading, hPass] at hNotPass
      cases hNotPass
  exact ⟨corresponds_of_matches (hReading.symm ▸ hSame.1) hClean, hClean⟩

/-- The new body of a line corresponds to the line, and nothing on it is to be repaired. -/
theorem corresponds_step (hg : g.WellFormed) (hInert : g.Inert) (state : BlockState) (line : Line) :
    Corresponds (of g state line.content)
        (of g state.repaired (Step.of g state line).newLine.content) ∧
      Clean g (of g state.repaired (Step.of g state line).newLine.content) := by
  cases hPass : (readLine g state line.content).kind.isPassThrough with
  | true =>
      have hContent : (Step.of g state line).newLine.content = line.content :=
        congrArg (fun body => (splitIndent body).2) (Repair.newBody_of_passThrough hPass)
      rw [hContent]
      exact corresponds_of_passThrough hPass
  | false =>
      obtain ⟨new, hNew, -, hContent, -⟩ := Repair.exists_newCode hPass
      obtain ⟨hSame, hSettled, hComment, hDirective⟩ := @Repair.stable_of_readLine g state _ hg
        hInert (splitIndent_spec line.body).2.2 (not_directive_of_kind hPass)
      rw [← Line.content, ← hNew] at hSame hSettled hComment hDirective
      rw [hContent]
      have hStrip := Comment.strip_eq_self hComment
      have hCode := @code_of_not_directive g state.repaired new hDirective
      have hKind := @kind_of_not_directive g state.repaired new hDirective
      rw [hStrip] at hCode hKind
      rw [state.isInside_repaired] at hKind
      have hClean : Clean g (of g state.repaired new) := by
        refine ⟨?_, fun _ => ?_⟩
        · rw [of, code, hCode, hKind]
          exact hSettled
        · rcases @code_cases g state.repaired new hDirective with ⟨hNone, -, -⟩ | ⟨-, -, hFind⟩
          · exact hNone
          · rw [hComment] at hFind
            cases hFind
      refine ⟨corresponds_of_matches ?_ hClean, hClean⟩
      rw [hCode, hKind]
      exact hSame

end Sighting

end ErDiagram
