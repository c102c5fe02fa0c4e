import ErDiagram.Proofs.Grammar.Modifier
import ErDiagram.Proofs.Repair.Run

/-!
What a built grammar owes to its builder. Whether it can be built, and everything that it is asked, follows
from which tokens the builder holds; neither the order of the steps nor a token that was added twice bears
on a repair. Only the list of key modifiers remembers the order of the steps.
-/

namespace ErDiagram

namespace Grammar

variable {g g' : Grammar}

/-- Two grammars that give the same answers. Their lists may differ. -/
structure Agrees (g g' : Grammar) : Prop where
  findOperator? : ∀ t, g.findOperator? t = g'.findOperator? t
  isKeyModifier : ∀ t, g.isKeyModifier t = g'.isKeyModifier t
  isDirective : ∀ t, g.isDirective t = g'.isDirective t
  commentMarker : g.commentMarker = g'.commentMarker

/-- Only the tokens of a grammar bear on its answers. The order of the operators does not: of those at one
place every grammar that can be made gives the longest. -/
theorem agrees_of_sameTokens (hg : g.IsBuilt) (hg' : g'.IsBuilt)
    (h : g.toBuilder.SameTokens g'.toBuilder) : g.Agrees g' where
  findOperator? := fun t => by
    ext span
    rw [hg.findOperator?_eq_some_iff, hg'.findOperator?_eq_some_iff]
    exact ⟨.of_mem_iff h.operator, .of_mem_iff h.symm.operator⟩
  isKeyModifier := isKeyModifier_congr h.keyModifier
  isDirective := fun t => by
    have hPrefix : g.directivePrefix = g'.directivePrefix := h.directivePrefix
    rw [isDirective, isDirective, hPrefix]
  commentMarker := h.commentMarker

namespace Agrees

variable (h : g.Agrees g')

include h

theorem hasOperator (t : Text) : g.hasOperator t = g'.hasOperator t := by
  rw [Grammar.hasOperator, Grammar.hasOperator, h.findOperator?]

theorem relationship? (code : Text) :
    Reading.relationship? g code = Reading.relationship? g' code := by
  rw [Reading.relationship?, Reading.relationship?, h.findOperator?]

theorem header? (code : Text) : Reading.header? g code = Reading.header? g' code := by
  simp only [Reading.header?, h.hasOperator]

theorem attributeParts (code : Text) :
    Reading.attributeParts g code = Reading.attributeParts g' code := by
  have hPiece : Reading.isNamePiece g = Reading.isNamePiece g' := by
    funext token
    rw [Reading.isNamePiece, Reading.isNamePiece, h.isKeyModifier]
  simp only [Reading.attributeParts, hPiece, h.isKeyModifier]

theorem readLine (state : BlockState) (content : Text) :
    ErDiagram.readLine g state content = ErDiagram.readLine g' state content := by
  simp only [ErDiagram.readLine, Reading.insideKind, Reading.outsideKind,
    Reading.closingRelationship?, h.isDirective, h.commentMarker, h.relationship?, h.header?,
    h.attributeParts]

theorem decisions (content : Text) (reading : Reading) :
    Repair.decisions g content reading = Repair.decisions g' content reading := by
  have hOpens : Repair.opensComment g = Repair.opensComment g' := by
    funext code edits
    rw [Repair.opensComment, Repair.opensComment, h.commentMarker]
  have hName : Repair.nameDecisions g = Repair.nameDecisions g' := by
    funext code parts
    simp only [Repair.nameDecisions, h.hasOperator, h.isKeyModifier, hOpens]
  have hLabel : Repair.labelDecisions g = Repair.labelDecisions g' := by
    funext code sides span
    simp only [Repair.labelDecisions, hOpens]
  have hCode : Repair.codeDecisions g = Repair.codeDecisions g' := by
    funext code kind
    cases kind <;> simp only [Repair.codeDecisions, hName, hLabel]
  rw [Repair.decisions, Repair.decisions, hCode]

theorem step (state : BlockState) (line : Line) : Step.of g state line = Step.of g' state line := by
  simp only [Step.of, h.readLine, h.decisions]

theorem steps (state : BlockState) (lines : List Line) :
    Repair.steps g state lines = Repair.steps g' state lines := by
  induction lines generalizing state with
  | nil => rfl
  | cons line rest ih => rw [Repair.steps_cons, Repair.steps_cons, h.step, ih]

theorem normalize (t : Text) :
    ErDiagram.normalize g t = ErDiagram.normalize g' t ∧ repairReport g t = repairReport g' t := by
  have hRun : repairRun g t = repairRun g' t := h.steps .outside (splitLines t)
  exact ⟨congrArg Repair.output hRun, congrArg Repair.report hRun⟩

end Agrees

end Grammar

/-- A builder gives a grammar exactly if its tokens are valid, and the operators of the grammar then stand
in strict order. Builders with the same tokens give grammars that answer and repair alike, so a grammar
can be taken apart and built again: a built one comes out as it was, and the one of Mermaid repairs every
text as before. -/
theorem build_canonical :
    (∀ b : GrammarBuilder, (∃ g, b.build = .ok g) ↔ b.Valid) ∧
    (∀ (b : GrammarBuilder) (g : Grammar), b.build = .ok g →
      g.operators.Pairwise GrammarBuilder.StandsBefore ∧ g.operators.Nodup ∧
        g.toBuilder.build = .ok g) ∧
    (∀ b b' : GrammarBuilder, b.SameTokens b' →
      ((∃ g, b.build = .ok g) ↔ ∃ g', b'.build = .ok g') ∧
        ∀ g g', b.build = .ok g → b'.build = .ok g' →
          g.operators = g'.operators ∧ g.Agrees g' ∧
            ∀ t, normalize g t = normalize g' t ∧ repairReport g t = repairReport g' t) ∧
    ∃ g, Grammar.mermaid.toBuilder.build = .ok g ∧
      ∀ t, normalize g t = normalize .mermaid t ∧
        repairReport g t = repairReport .mermaid t := by
  refine ⟨fun b => GrammarBuilder.build_isOk_iff, fun b g hBuild => ?_, fun b b' hSame => ⟨?_, ?_⟩,
    ?_⟩
  · have hOrder := GrammarBuilder.pairwise_of_build hBuild
    exact ⟨hOrder, hOrder.imp fun h => h.ne, GrammarBuilder.build_toBuilder hBuild⟩
  · rw [GrammarBuilder.build_isOk_iff, GrammarBuilder.build_isOk_iff]
    exact ⟨hSame.valid, hSame.symm.valid⟩
  · intro g g' hBuild hBuild'
    have hTokens : g.toBuilder.SameTokens g'.toBuilder :=
      (GrammarBuilder.sameTokens_of_build hBuild).trans
        (hSame.trans (GrammarBuilder.sameTokens_of_build hBuild').symm)
    have hAgrees := Grammar.agrees_of_sameTokens (Or.inr ⟨b, hBuild⟩) (Or.inr ⟨b', hBuild'⟩) hTokens
    have hOperators : g.operators = g'.operators :=
      (GrammarBuilder.pairwise_of_build hBuild).eq_of_mem_iff
        (GrammarBuilder.pairwise_of_build hBuild') hTokens.operator
    exact ⟨hOperators, hAgrees, hAgrees.normalize⟩
  · have hValid : Grammar.mermaid.toBuilder.Valid := by
      rw [← GrammarBuilder.fault?_eq_none_iff]
      decide
    obtain ⟨g, hBuild⟩ := GrammarBuilder.build_isOk_iff.mpr hValid
    have hAgrees := Grammar.agrees_of_sameTokens (Or.inr ⟨_, hBuild⟩) (Or.inl rfl)
      (GrammarBuilder.sameTokens_of_build hBuild)
    exact ⟨g, hBuild, hAgrees.normalize⟩

/-- The second builder has the same tokens in another order, and some of them twice; its grammar has
other key modifiers in its list. -/
theorem build_canonical_reordered :
    let b := GrammarBuilder.empty.addAll [.operator "--".toList, .operator "-->".toList,
      .keyModifier "PK".toList, .keyModifier "NN".toList]
    let b' := GrammarBuilder.empty.addAll [.keyModifier "NN".toList, .operator "-->".toList,
      .commentMarker "//".toList, .keyModifier "PK".toList, .operator "--".toList,
      .keyModifier "NN".toList, .operator "-->".toList]
    b.SameTokens b' ∧ ∃ g g', b.build = .ok g ∧ b'.build = .ok g' ∧ g ≠ g' ∧
      g.operators = g'.operators ∧ g.Agrees g' ∧
      ∀ t, normalize g t = normalize g' t ∧ repairReport g t = repairReport g' t := by
  intro b b'
  have hOperators : b.operators ⊆ b'.operators ∧ b'.operators ⊆ b.operators := by decide
  have hModifiers : b.keyModifiers ⊆ b'.keyModifiers ∧ b'.keyModifiers ⊆ b.keyModifiers := by decide
  have hSame : b.SameTokens b' :=
    ⟨fun _ => ⟨(hOperators.1 ·), (hOperators.2 ·)⟩, fun _ => ⟨(hModifiers.1 ·), (hModifiers.2 ·)⟩,
      rfl, rfl⟩
  obtain ⟨g, hBuild⟩ : ∃ g, b.build = .ok g := ⟨_, rfl⟩
  obtain ⟨g', hBuild'⟩ : ∃ g, b'.build = .ok g := ⟨_, rfl⟩
  have hDiffers : g ≠ g' := by
    rw [Grammar.eq_of_build hBuild, Grammar.eq_of_build hBuild']
    decide
  exact ⟨hSame, g, g', hBuild, hBuild', hDiffers,
    (build_canonical.2.2.1 b b' hSame).2 g g' hBuild hBuild'⟩

end ErDiagram
