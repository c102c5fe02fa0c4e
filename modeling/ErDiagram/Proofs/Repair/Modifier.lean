import ErDiagram.Proofs.Repair.Run

/-!
Key modifiers against everything else. A run looks at the modifiers of its grammar only to tell where the
name on an attribute line ends and whether the name may be joined. So runs under two lists of modifiers
read and repair all other lines alike, and on an attribute line they leave the same but for some gaps.
-/

namespace ErDiagram

/-- The grammar with other key modifiers. -/
def Grammar.withModifiers (g : Grammar) (modifiers : List Text) : Grammar :=
  { g with keyModifiers := modifiers }

/-- Two kinds that differ at most in the name and the modifiers of an attribute. -/
inductive LineKind.Alike : LineKind → LineKind → Prop where
  | same (kind : LineKind) : Alike kind kind
  | entityAttribute {parts parts' : AttributeParts} (hDataType : parts'.dataType? = parts.dataType?)
      (hRemark : parts'.remark? = parts.remark?) :
      Alike (.entityAttribute parts) (.entityAttribute parts')

namespace LineKind

def isAttribute : LineKind → Bool
  | .entityAttribute _ => true
  | _ => false

variable {kind kind' : LineKind}

theorem exists_of_isAttribute (h : kind.isAttribute = true) :
    ∃ parts, kind = .entityAttribute parts := by
  cases kind with
  | entityAttribute parts => exact ⟨parts, rfl⟩
  | entityHeader name => cases h
  | entityFooter => cases h
  | relationship parts => cases h
  | directive => cases h
  | other => cases h

theorem Alike.eq_of_not_attribute (h : kind.Alike kind') (hNot : kind.isAttribute = false) :
    kind' = kind := by
  cases h with
  | same => rfl
  | entityAttribute hDataType hRemark => cases hNot

theorem Alike.exists_parts {parts : AttributeParts}
    (h : (LineKind.entityAttribute parts).Alike kind') :
    ∃ parts', kind' = .entityAttribute parts' := by
  cases h with
  | same => exact ⟨parts, rfl⟩
  | @entityAttribute _ parts' hDataType hRemark => exact ⟨parts', rfl⟩

end LineKind

/-- A text without its separating characters. -/
def Text.withoutGaps (t : Text) : Text :=
  t.filter (!isGap ·)

namespace Text

theorem withoutGaps_append (a b : Text) :
    withoutGaps (a ++ b) = withoutGaps a ++ withoutGaps b :=
  List.filter_append ..

/-- A character that trimming stops at is no gap. -/
theorem withoutGaps_trimEnd (t : Text) : withoutGaps (trimEnd t) = trimEnd (withoutGaps t) := by
  obtain ⟨trail, hTrail, hText⟩ := exists_trimEnd t
  have hBlank : (withoutGaps trail).isAllBlank = true :=
    isAllBlank_iff.mpr fun c hc => isAllBlank_iff.mp hTrail c (List.mem_filter.mp hc).1
  have hCore : trimEnd (withoutGaps (trimEnd t)) = withoutGaps (trimEnd t) := by
    rcases List.eq_nil_or_concat (trimEnd t) with hNil | ⟨front, d, hConcat⟩
    · rw [hNil]
      rfl
    · rw [List.concat_eq_append] at hConcat
      have hd : isBlank d = false := last_trimEnd (t := t) (by rw [hConcat, List.getLast?_concat])
      have hLast : withoutGaps (trimEnd t) = withoutGaps front ++ [d] := by
        rw [hConcat, withoutGaps_append]
        simp [withoutGaps, isGap_of_not_blank hd]
      rw [hLast]
      apply trimEnd_eq_self
      intro c hc
      rw [List.getLast?_concat, Option.some.injEq] at hc
      exact hc ▸ hd
  conv_rhs => rw [hText, withoutGaps_append, trimEnd_append_of_blank _ hBlank, hCore]

end Text

theorem Squeezed.withoutGaps_eq {old new : Text} (h : Squeezed old new) :
    new.withoutGaps = old.withoutGaps := by
  induction h with
  | nil => rfl
  | keep c tail ih =>
      rw [Text.withoutGaps, List.filter_cons, Text.withoutGaps, List.filter_cons]
      exact congrArg (fun t => if !isGap c then c :: t else t) ih
  | @drop old new c hGap tail ih =>
      rw [ih, Text.withoutGaps, Text.withoutGaps, List.filter_cons_of_neg (by simp [hGap])]

namespace Reading

variable (g : Grammar) (modifiers : List Text)

/-- No piece of a name is quoted, so the name hides no remark. -/
theorem find?_isQuoted_dropWhile (tokens : List Token) :
    (tokens.dropWhile (isNamePiece g)).find? Token.isQuoted = tokens.find? Token.isQuoted := by
  induction tokens with
  | nil => rfl
  | cons token rest ih =>
      cases hPiece : isNamePiece g token with
      | false => rw [List.dropWhile_cons_of_neg (by simp [hPiece])]
      | true =>
          have hQuoted : token.isQuoted = false := by
            rw [isNamePiece, Bool.and_eq_true, Bool.not_eq_true'] at hPiece
            exact hPiece.1
          rw [List.dropWhile_cons_of_pos hPiece, ih, List.find?_cons, hQuoted]

theorem alike_attributeParts (g' : Grammar) (code : Text) :
    (LineKind.entityAttribute (attributeParts g code)).Alike
      (.entityAttribute (attributeParts g' code)) := by
  unfold attributeParts
  cases tokenize code with
  | nil => exact .same _
  | cons dataType rest =>
      refine .entityAttribute rfl ?_
      simp only [find?_isQuoted_dropWhile]

/-- What a line is does not depend on the modifiers. -/
theorem alike_kindOf (inside : Bool) (code : Text) :
    (kindOf g inside code).Alike (kindOf (g.withModifiers modifiers) inside code) := by
  cases inside with
  | false => exact .same _
  | true =>
      have hRelationship : closingRelationship? (g.withModifiers modifiers) code =
          closingRelationship? g code := rfl
      have hHeader : header? (g.withModifiers modifiers) code = header? g code := rfl
      change (insideKind g code).Alike (insideKind (g.withModifiers modifiers) code)
      unfold insideKind
      rw [hRelationship, hHeader]
      split
      next => exact .same _
      next =>
        cases closingRelationship? g code with
        | some parts => exact .same _
        | none =>
            cases header? g code with
            | some name => exact .same _
            | none => exact alike_attributeParts g _ code

end Reading

/-- Only the kind of a line can be told differently, and only within an attribute. -/
theorem readLine_withModifiers (g : Grammar) (modifiers : List Text) (state : BlockState)
    (content : Text) :
    ∃ kind', (readLine g state content).kind.Alike kind' ∧
      readLine (g.withModifiers modifiers) state content =
        { readLine g state content with kind := kind' } := by
  cases hDirective : g.isDirective content with
  | true =>
      have hDirective' : (g.withModifiers modifiers).isDirective content = true := hDirective
      rw [readLine_of_directive hDirective, readLine_of_directive hDirective']
      exact ⟨.directive, .same _, rfl⟩
  | false =>
      have hDirective' : (g.withModifiers modifiers).isDirective content = false := hDirective
      rw [readLine_of_not_directive hDirective, readLine_of_not_directive hDirective']
      exact ⟨_, Reading.alike_kindOf g modifiers _ _, rfl⟩

/-- The counts of all repairs but of joined names. -/
def Tally.unjoined (tally : Tally) : Tally :=
  { tally with attributeNamesJoined := 0 }

theorem Tally.unjoined_add (a b : Tally) : (a + b).unjoined = a.unjoined + b.unjoined := rfl

/-- Two steps on one line. They are the same but on an attribute, where they differ at most in what
they take for the name and the modifiers and in the gaps that they leave. -/
structure Step.Alike (first second : Step) : Prop where
  before : second.before = first.before
  line : second.line = first.line
  kind : first.reading.kind.Alike second.reading.kind
  after : second.after = first.after
  same : first.reading.kind.isAttribute = false → second = first
  gapless : second.body.withoutGaps = first.body.withoutGaps
  tally : second.tally.unjoined = first.tally.unjoined

theorem Step.Alike.refl (step : Step) : step.Alike step :=
  ⟨rfl, rfl, .same _, rfl, fun _ => rfl, rfl, rfl⟩

namespace Repair

variable {g : Grammar} {state : BlockState} {line : Line}

/-- The repair of an attribute takes nothing but gaps from its code. -/
theorem squeezed_newCode {code : Text} {parts : AttributeParts}
    (h : Laid g code (.entityAttribute parts))
    (hHead : ∀ c, code.head? = some c → isBlank c = false) :
    Squeezed code (newCode g code (.entityAttribute parts)) := by
  cases h with
  | entityAttribute =>
      rcases attribute_cases g hHead with hSettled | ⟨s, joined, hSplits, rfl, hEdits, -, -⟩
      · rw [newCode_of_settled hSettled]
        exact .refl code
      · rw [newCode_joined hEdits]
        exact hSplits.squeezed_text
  | idle hNone =>
      rw [newCode_of_settled (by rw [Settled, hNone]; rfl)]
      exact .refl code

theorem unjoined_nameDecisions (g : Grammar) (code : Text) (parts : AttributeParts) :
    (Tally.sum ((nameDecisions g code parts).map Decision.tally)).unjoined = {} := by
  rcases nameDecisions_cases g code parts with h | ⟨_, _, _, -, h | ⟨h, -⟩⟩
  all_goals
    rw [h]
    rfl

/-- What a step on an attribute does under any modifiers. -/
theorem step_attribute {parts : AttributeParts}
    (h : (readLine g state line.content).kind = .entityAttribute parts) :
    let reading := readLine g state line.content
    let gapless := ((splitIndent line.body).1 ++ reading.code line.content).withoutGaps
    let step := Step.of g state line
    step.after = state ∧
      step.body.withoutGaps = (if reading.hasComment then gapless.trimEnd else gapless) ∧
      step.tally.unjoined = if reading.hasComment then { commentsStripped := 1 } else {} := by
  intro reading gapless step
  refine ⟨?_, ?_, ?_⟩
  · change state.next _ (readLine g state line.content).kind = state
    rw [h]
    rfl
  · have hBody : step.body =
        let new := (splitIndent line.body).1 ++ newCode g (reading.code line.content) reading.kind
        if reading.hasComment then Text.trimEnd new else new :=
      newBody_eq (by rw [← Line.content, h]; rfl)
    have hLaid := laid_readLine g state line.content
    rw [h] at hLaid
    have hNew : ((splitIndent line.body).1 ++
        newCode g (reading.code line.content) reading.kind).withoutGaps = gapless := by
      rw [Text.withoutGaps_append, h, (squeezed_newCode hLaid fun _ => head_code).withoutGaps_eq,
        ← Text.withoutGaps_append]
    rw [hBody]
    cases reading.hasComment with
    | false => exact hNew
    | true => exact (Text.withoutGaps_trimEnd _).trans (congrArg Text.trimEnd hNew)
  · have hTally : step.tally = Tally.sum ((decisions g line.content reading).map Decision.tally) := rfl
    rw [hTally, decisions, List.map_append, Tally.sum_append, Tally.unjoined_add, h, codeDecisions,
      unjoined_nameDecisions]
    cases reading.hasComment with
    | false => rfl
    | true => rfl

/-- Modifiers bear on decisions about attributes only. -/
theorem decisions_withModifiers (g : Grammar) (modifiers : List Text) (content : Text)
    {reading : Reading} (h : reading.kind.isAttribute = false) :
    decisions (g.withModifiers modifiers) content reading = decisions g content reading := by
  obtain ⟨kind, codeSize, hasComment⟩ := reading
  cases kind with
  | entityHeader name => rfl
  | entityFooter => rfl
  | entityAttribute parts => cases h
  | relationship parts => rfl
  | directive => rfl
  | other => rfl

theorem alike_step (g : Grammar) (modifiers : List Text) (state : BlockState) (line : Line) :
    (Step.of g state line).Alike (Step.of (g.withModifiers modifiers) state line) := by
  obtain ⟨kind', hKind, hReading⟩ := readLine_withModifiers g modifiers state line.content
  cases hAttribute : (readLine g state line.content).kind.isAttribute with
  | false =>
      rw [hKind.eq_of_not_attribute hAttribute] at hReading
      have hDecisions := decisions_withModifiers g modifiers line.content hAttribute
      have hSame : Step.of (g.withModifiers modifiers) state line = Step.of g state line := by
        rw [Line.content] at hReading hDecisions
        simp only [Step.of, hReading, hDecisions]
      rw [hSame]
      exact .refl _
  | true =>
      -- What an attribute leaves without its gaps is told by its code, which both steps share.
      obtain ⟨parts, hParts⟩ := LineKind.exists_of_isAttribute hAttribute
      rw [hParts] at hKind
      obtain ⟨parts', rfl⟩ := hKind.exists_parts
      have hParts' : (readLine (g.withModifiers modifiers) state line.content).kind =
          .entityAttribute parts' := congrArg Reading.kind hReading
      obtain ⟨hAfter, hBody, hTally⟩ := step_attribute hParts
      obtain ⟨hAfter', hBody', hTally'⟩ := step_attribute hParts'
      rw [hReading] at hBody' hTally'
      refine {
        before := rfl
        line := rfl
        kind := ?_
        after := hAfter'.trans hAfter.symm
        same := fun hNot => ?_
        gapless := hBody'.trans hBody.symm
        tally := hTally'.trans hTally.symm }
      · change (readLine g state line.content).kind.Alike _
        rw [hParts]
        exact hParts' ▸ hKind
      · cases hAttribute.symm.trans hNot

theorem alike_steps (g : Grammar) (modifiers : List Text) (state : BlockState) (lines : List Line) :
    List.Forall₂ Step.Alike (steps g state lines)
      (steps (g.withModifiers modifiers) state lines) := by
  induction lines generalizing state with
  | nil => exact .nil
  | cons line rest ih =>
      have hStep := alike_step g modifiers state line
      rw [steps_cons, steps_cons, hStep.after]
      exact .cons hStep (ih _)

theorem unjoined_sum_of_alike {run run' : List Step} (h : List.Forall₂ Step.Alike run run') :
    (Tally.sum (run'.map Step.tally)).unjoined = (Tally.sum (run.map Step.tally)).unjoined := by
  induction h with
  | nil => rfl
  | cons hStep hRest ih =>
      rw [List.map_cons, List.map_cons, Tally.sum, Tally.sum, Tally.unjoined_add, Tally.unjoined_add,
        hStep.tally, ih]

end Repair

/-- Runs under two grammars that were built from the same tokens but for the key modifiers differ on
attributes only, and there in the name alone: without spaces and tabs their bodies are the same. The
runs count the same repairs, except for the joined names. -/
theorem repairRun_modifiers {b : GrammarBuilder} {modifiers others : List Text} {g g' : Grammar}
    (h : (b.addAll (modifiers.map .keyModifier)).build = .ok g)
    (h' : (b.addAll (others.map .keyModifier)).build = .ok g') (t : Text) :
    List.Forall₂ Step.Alike (repairRun g t) (repairRun g' t) ∧
      (repairReport g' t).tally.commentsStripped = (repairReport g t).tally.commentsStripped ∧
      (repairReport g' t).tally.entityNamesRepaired =
        (repairReport g t).tally.entityNamesRepaired ∧
      (repairReport g' t).tally.labelsCamelCased = (repairReport g t).tally.labelsCamelCased := by
  have hSame : g' = g.withModifiers g'.keyModifiers := by
    rw [Grammar.addAll_keyModifier] at h h'
    rw [Grammar.eq_of_build h, Grammar.eq_of_build h']
    rfl
  have hRun : List.Forall₂ Step.Alike (repairRun g t) (repairRun g' t) := by
    rw [hSame]
    exact Repair.alike_steps g g'.keyModifiers .outside (splitLines t)
  have hTally : (repairReport g' t).tally.unjoined = (repairReport g t).tally.unjoined :=
    Repair.unjoined_sum_of_alike hRun
  exact ⟨hRun, (congrArg Tally.commentsStripped hTally :),
    (congrArg Tally.entityNamesRepaired hTally :), (congrArg Tally.labelsCamelCased hTally :)⟩

theorem repairRun_modifiers_notNull :
    let t := "A-B \x7b\n int a b NN // c\n\x7d\nA-B ||--o\x7b C : is a".toList
    (Grammar.mermaid.toBuilder.addAll ([].map .keyModifier)).build =
        .ok (Grammar.withNotNull.withModifiers Grammar.standardModifiers) ∧
      (Grammar.mermaid.toBuilder.addAll (["NN".toList].map .keyModifier)).build =
        .ok Grammar.withNotNull ∧
      List.Forall₂ Step.Alike
        (repairRun (Grammar.withNotNull.withModifiers Grammar.standardModifiers) t)
        (repairRun Grammar.withNotNull t) ∧
      (normalize (Grammar.withNotNull.withModifiers Grammar.standardModifiers) t =
        "A_B \x7b\n int abNN\n\x7d\nA_B ||--o\x7b C : isA".toList) ∧
      normalize Grammar.withNotNull t =
        "A_B \x7b\n int ab NN\n\x7d\nA_B ||--o\x7b C : isA".toList := by
  intro t
  have h : (Grammar.mermaid.toBuilder.addAll ([].map .keyModifier)).build =
      .ok (Grammar.withNotNull.withModifiers Grammar.standardModifiers) := rfl
  have h' : (Grammar.mermaid.toBuilder.addAll (["NN".toList].map .keyModifier)).build =
      .ok Grammar.withNotNull := rfl
  exact ⟨h, h', (repairRun_modifiers h h' t).1, by decide +kernel, by decide +kernel⟩

end ErDiagram
