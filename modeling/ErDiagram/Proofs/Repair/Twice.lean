import ErDiagram.Proofs.Repair.Run

/-!
Repairing twice, for grammars of any tokens. A repair writes underscores into names and draws labels
together, so it can write a token of the grammar into a line, and what the line means changes with the
token. The check of a grammar does not rule this out; where no token can come about that way, a
second repair changes nothing.
-/

namespace ErDiagram

variable {g : Grammar}

/-- A grammar of arrows. It shares no operator, marker or prefix with the one of Mermaid. -/
def Grammar.arrows : Grammar where
  operators := ["<:>".toList, "->".toList]
  keyModifiers := ["NN".toList]
  commentMarker := "#".toList
  directivePrefix := "::".toList

/-- Under a grammar that can be built, and into whose lines no repair can bring a token, a repaired text
is its own repair, and the report of the second repair is clean. -/
theorem normalize_normalize_of_inert {b : GrammarBuilder} (hBuild : b.build = .ok g)
    (hInert : g.Inert) (t : Text) :
    normalize g (normalize g t) = normalize g t ∧
      (repairReport g (normalize g t)).isClean = true ∧
      (repairReport g (normalize g t)).repairCount = 0 :=
  normalize_eq_self_of_clean
    (Repair.clean_normalize_of_inert (Grammar.wellFormed_of_build hBuild) hInert t)

theorem normalize_normalize_arrows :
    let b := GrammarBuilder.empty.addAll [.operator "->".toList, .operator "<:>".toList,
      .keyModifier "NN".toList, .commentMarker "#".toList, .directivePrefix "::".toList]
    let t := "A-B \x7b # c\n int a b NN\n::x -> y : p q\nA-B -> C : is a".toList
    let new := "A_B \x7b\n int ab NN\n::x -> y : p q\nA_B -> C : isA".toList
    b.build = .ok Grammar.arrows ∧ Grammar.arrows.Inert ∧ normalize Grammar.arrows t = new ∧
      normalize Grammar.arrows new = new ∧ (repairReport Grammar.arrows new).isClean = true ∧
      (repairReport Grammar.arrows new).repairCount = 0 := by
  intro b t new
  have hBuild : b.build = .ok Grammar.arrows := rfl
  have hInert : Grammar.arrows.Inert := by decide
  have hNew : normalize Grammar.arrows t = new := by decide +kernel
  have hAgain := normalize_normalize_of_inert hBuild hInert t
  rw [hNew] at hAgain
  exact ⟨hBuild, hInert, hNew, hAgain⟩

/-- Builders that are Mermaid's but for one token, each with a text that is repaired once more. Like a
marker with an underscore, they break the conditions one by one: an underscore in an operator and in
the prefix, and a label within reach of an operator and of the prefix. -/
def GrammarBuilder.reactive : List (GrammarBuilder × Text) :=
  [(Grammar.mermaid.toBuilder.add (.operator "a_b".toList), "a-b \x7b\nx y a_b z : p q".toList),
    (Grammar.mermaid.toBuilder.add (.directivePrefix "a_".toList),
      "a-b \x7b\nx y ||--|| z : p q".toList),
    (Grammar.mermaid.toBuilder.add (.operator "||--||B:xY".toList),
      "E \x7b\nA ||--||B:x y\nint a b".toList),
    (Grammar.mermaid.toBuilder.add (.directivePrefix "A||--||B:xY".toList),
      "E \x7b\nA||--||B:x y\nint a b".toList)]

/-- A repaired name can open a comment, which the second repair strips. The other builders, too, are
accepted, and the second repair changes their texts again. -/
theorem normalize_normalize_reactive :
    (∃ g, (Grammar.mermaid.toBuilder.add (.commentMarker "__".toList)).build = .ok g ∧
      normalize g "A ||--|| B--C".toList = "A ||--|| B__C".toList ∧
      normalize g "A ||--|| B__C".toList = "A ||--|| B".toList) ∧
    GrammarBuilder.reactive.Forall fun (b, t) => ∃ g, b.build = .ok g ∧
      normalize g (normalize g t) ≠ normalize g t := by
  refine ⟨⟨_, rfl, by decide +kernel, by decide +kernel⟩, ?_⟩
  exact ⟨⟨_, rfl, by decide +kernel⟩, ⟨_, rfl, by decide +kernel⟩, ⟨_, rfl, by decide +kernel⟩,
    ⟨_, rfl, by decide +kernel⟩⟩

end ErDiagram
