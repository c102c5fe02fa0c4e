import ErDiagram.Proofs.Repair.Attribute

/-!
What a joined name does to the tokens of its line. The pieces of the name become one token, the type in
front of them stays as it is, and whatever follows moves up; so the line with the joined name has the
same parts as before.
-/

namespace ErDiagram

namespace Repair

/-- A decision to join a name: its pieces, and the guards that do not stand in the way. -/
theorem exists_pieces_of_joinName {g : Grammar} {code : Text} {parts : AttributeParts} {span : Span}
    {old joined : Text} (h : nameDecisions g code parts = [.joinName span old joined]) :
    ∃ first second more, parts.name = first :: second :: more ∧
      span = ⟨first.start, ((second :: more).getLast (by simp)).stop⟩ ∧ old = code.slice span ∧
      joined = AttributeName.join (parts.name.map code.slice) ∧ g.isKeyModifier joined = false := by
  rcases nameDecisions_cases g code parts with
    hNone | ⟨first, second, more, hName, hKeep | ⟨hJoin, -, hModifier, -⟩⟩
  · rw [hNone] at h
    cases h
  · rw [hKeep] at h
    cases h
  · rw [hJoin] at h
    cases h
    exact ⟨first, second, more, hName, rfl, rfl, rfl, hModifier⟩

end Repair

/-- Deleting the gap between two consecutive tokens makes one token of them and moves up what follows;
the new token is in quotes exactly if the first of the two was. Joining the name of an attribute deletes
all gaps in it, and the line has the same type, one token for the name, and behind that the same tokens,
moved up. It is read as the same parts. -/
theorem tokenize_closed_and_joined :
    (∀ (t : Text) (before after : List Token) (a b : Token), tokenize t = before ++ a :: b :: after →
      let gap := b.span.start - a.span.stop
      let merged : Token := ⟨a.text ++ b.text, ⟨a.span.start, b.span.stop - gap⟩⟩
      a.span.stop < b.span.start ∧ isAllGap (t.slice ⟨a.span.stop, b.span.start⟩) = true ∧
        tokenize (t.takeBytes a.span.stop ++ t.dropBytes b.span.start) =
          before ++ merged :: after.map (Token.moveUp gap) ∧
        merged.isQuoted = a.isQuoted) ∧
      ∀ (g : Grammar) (code : Text) (span : Span) (old joined : Text),
        Repair.nameDecisions g code (Reading.attributeParts g code) = [.joinName span old joined] →
          ∃ dataType pieces trailing,
            tokenize code = dataType :: (pieces ++ trailing) ∧
              (Reading.attributeParts g code).name = pieces.map Token.span ∧
              joined = Token.joined pieces ∧
            let name : Token := ⟨joined, ⟨span.start, span.start + joined.size⟩⟩
            let closed := old.size - joined.size
            let new := Edit.applyAll code [⟨span, joined⟩]
            tokenize new = dataType :: name :: trailing.map (Token.moveUp closed) ∧
              Reading.attributeParts g new =
                { Reading.attributeParts g code with
                  name := [name.span]
                  modifiers := (Reading.attributeParts g code).modifiers.map (Span.moveUp closed)
                  remark? := (Reading.attributeParts g code).remark?.map (Span.moveUp closed) } := by
  constructor
  · intro t before after a b h gap merged
    obtain ⟨hLess, hGap, hTokens⟩ := Token.tokenize_closed h
    refine ⟨hLess, hGap, hTokens, ?_⟩
    have hText : a.text ≠ [] := (Token.layout_tokenize t).text_ne_nil (h ▸ by simp)
    rw [Token.isQuoted, Token.isQuoted, List.head?_append_of_ne_nil _ hText]
  · intro g code span old joined h
    obtain ⟨first, second, more, hName, rfl, rfl, rfl, hModifier⟩ := Repair.exists_pieces_of_joinName h
    obtain ⟨dataType, piece, next, pieces, trailing, hTokens, rfl, hLast⟩ :=
      Reading.AttributeTokens.exists_of_name hName
    have hJoined : AttributeName.join ((Reading.attributeParts g code).name.map code.slice) =
        Token.joined (piece :: next :: pieces) := congrArg AttributeTexts.name hTokens.texts_eq
    rw [hJoined, hLast]
    rw [hJoined] at hModifier
    refine ⟨dataType, piece :: next :: pieces, trailing, hTokens.layout.scan_eq,
      by rw [hTokens.parts_eq], rfl, ?_⟩
    have hWithin := @Token.within_run code [dataType] pieces trailing piece next hTokens.layout.scan_eq
    have hMerged := hTokens.merged hModifier
    have hClosed : ((piece :: next :: pieces).getLast (by simp)).span.stop -
        (Token.merged piece (next :: pieces)).span.stop =
          ((piece :: next :: pieces).getLast (by simp)).span.stop - piece.span.start -
            (Token.joined (piece :: next :: pieces)).size := (Nat.sub_sub ..).symm
    simp only [hClosed] at hMerged
    rw [hWithin.applyAll, hWithin.size_slice]
    refine ⟨hMerged.layout.scan_eq, ?_⟩
    rw [hMerged.parts_eq, hTokens.parts_eq]
    simp only [List.filter_map, List.find?_map, List.map_map, Option.map_map]
    rfl

/-- A token with quotes inside of it, one with quotes that are never closed, and a name in pieces in front
of a modifier and a remark. -/
theorem tokenize_closed_and_joined_quoted :
    let t : Text := "é\"a b\"c  d \"e f".toList
    let a : Token := ⟨"é\"a b\"c".toList, ⟨0, 8⟩⟩
    let b : Token := ⟨"d".toList, ⟨10, 11⟩⟩
    let c : Token := ⟨"\"e f".toList, ⟨12, 16⟩⟩
    let code : Text := "int x\"y z\" \tü pk, \"r".toList
    let old : Text := "x\"y z\" \tü".toList
    let joined : Text := "x\"y z\"ü".toList
    tokenize t = [] ++ a :: b :: [c] ∧
      tokenize (t.takeBytes 8 ++ t.dropBytes 10) =
        [⟨"é\"a b\"cd".toList, ⟨0, 9⟩⟩, ⟨"\"e f".toList, ⟨10, 14⟩⟩] ∧
      Repair.nameDecisions Grammar.mermaid code (Reading.attributeParts Grammar.mermaid code) =
        [.joinName ⟨4, 14⟩ old joined] ∧
      Reading.attributeParts Grammar.mermaid (Edit.applyAll code [⟨⟨4, 14⟩, joined⟩]) =
        { dataType? := some ⟨0, 3⟩, name := [⟨4, 12⟩], modifiers := [⟨13, 16⟩],
          remark? := some ⟨17, 19⟩ } := by
  intro t a b c code old joined
  have hTokens : tokenize t = [] ++ a :: b :: [c] := by decide
  have hDecision : Repair.nameDecisions Grammar.mermaid code
      (Reading.attributeParts Grammar.mermaid code) = [.joinName ⟨4, 14⟩ old joined] := by
    decide +kernel
  obtain ⟨hClosed, hJoined⟩ := tokenize_closed_and_joined
  obtain ⟨-, -, hNew, -⟩ := hClosed t [] [c] a b hTokens
  obtain ⟨-, -, -, -, -, -, -, hParts⟩ := hJoined Grammar.mermaid code ⟨4, 14⟩ old joined hDecision
  exact ⟨hTokens, hNew, hDecision, hParts.trans (by decide +kernel)⟩

end ErDiagram
