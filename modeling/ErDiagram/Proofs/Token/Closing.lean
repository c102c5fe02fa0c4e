import ErDiagram.Proofs.Token.Gaps

/-!
Closing the gaps between consecutive tokens of a line. They become one token, the tokens in front of them
stay where they are, and those behind move up by as much as was taken out.
-/

namespace ErDiagram

/-- The span a number of bytes further in front. -/
def Span.moveUp (n : Nat) (span : Span) : Span :=
  ⟨span.start - n, span.stop - n⟩

theorem Squeezed.size_le {old new : Text} (h : Squeezed old new) : new.size ≤ old.size := by
  induction h with
  | nil => exact Nat.le_refl _
  | keep c tail ih => exact Nat.add_le_add_left ih _
  | drop hGap tail ih => exact Nat.le_trans ih (Nat.le_add_left ..)

namespace Token

/-- The token a number of bytes further in front. -/
def moveUp (n : Nat) (token : Token) : Token :=
  ⟨token.text, token.span.moveUp n⟩

theorem map_text_moveUp (n : Nat) (tokens : List Token) :
    (tokens.map (moveUp n)).map text = tokens.map text :=
  List.map_map

/-- The texts of tokens without anything between them. -/
def joined (tokens : List Token) : Text :=
  tokens.flatMap text

/-- One token for consecutive ones, once the gaps between them are closed. -/
def merged (first : Token) (more : List Token) : Token :=
  ⟨joined (first :: more), ⟨first.span.start, first.span.start + (joined (first :: more)).size⟩⟩

theorem head_joined {first : Token} (hFirst : first.text ≠ []) (more : List Token) :
    (joined (first :: more)).head? = first.text.head? :=
  List.head?_append_of_ne_nil _ hFirst

namespace Layout

theorem moveUp {start : Nat} {t : Text} {tokens : List Token} (h : Layout start t tokens) {n : Nat}
    (hn : n ≤ start) : Layout (start - n) t (tokens.map (Token.moveUp n)) := by
  induction h with
  | gap hGap => exact .gap hGap
  | @token start gap text rest more hGap hText hSolid hBorder tail ih =>
      have hStart : start + gap.size - n = start - n + gap.size := by omega
      have hStop : start + gap.size + text.size - n = start - n + gap.size + text.size := by omega
      have hRest := ih (by omega)
      rw [hStop] at hRest
      have hWhole := Layout.token hGap hText hSolid hBorder hRest
      rw [List.map_cons, Token.moveUp, Span.moveUp]
      simp only [hStart, hStop]
      exact hWhole

/-- The tokens of a text once the gaps between some consecutive ones close. The text starts as before, so
a token in front of it still ends where it did. -/
theorem merge {start : Nat} {t : Text} {before more after : List Token} {first : Token}
    (h : Layout start t (before ++ (first :: more ++ after))) :
    ∃ front run back, t = front ++ run ++ back ∧ first.span.start = start + front.size ∧
      ((first :: more).getLast (by simp)).span.stop = start + front.size + run.size ∧
      (front ++ joined (first :: more) ++ back).head? = t.head? ∧
      Layout start (front ++ joined (first :: more) ++ back)
        (before ++ merged first more ::
          after.map (Token.moveUp (run.size - (joined (first :: more)).size))) := by
  induction before generalizing start t with
  | nil =>
      have hFirst : first.text ≠ [] := h.text_ne_nil (by simp)
      obtain ⟨gap, run, rest, rfl, hGap, hStart, hStop, ⟨run', rfl⟩, hSqueezed, hSolid, hBorder, -, -,
        hRest⟩ := h.exists_run
      have hSize : (joined (first :: more)).size ≤ (first.text ++ run').size := hSqueezed.size_le
      refine ⟨gap, first.text ++ run', rest, rfl, hStart, hStop, ?_, ?_⟩
      · cases gap with
        | nil =>
            rw [List.nil_append, List.nil_append, List.append_assoc,
              List.head?_append_of_ne_nil _ hFirst, List.head?_append_of_ne_nil _ (by simp [joined, hFirst]),
              head_joined hFirst]
        | cons c gap => rfl
      · have hMoved := hRest.moveUp (n := (first.text ++ run').size - (joined (first :: more)).size)
          (by omega)
        have hBack : start + gap.size + (first.text ++ run').size -
            ((first.text ++ run').size - (joined (first :: more)).size) =
              start + gap.size + (joined (first :: more)).size := by omega
        rw [hBack] at hMoved
        rw [merged, hStart]
        exact .token hGap (by simp [joined, hFirst]) hSolid hBorder hMoved
  | cons token before ih =>
      cases h with
      | @token _ gap text rest _ hGap hText hSolid hBorder tail =>
          have hRest : rest ≠ [] := by
            cases before with
            | nil => exact tail.ne_nil
            | cons next before => exact tail.ne_nil
          have hFirst (b : Text) : (gap ++ text ++ b).head? = (gap ++ text).head? :=
            List.head?_append_of_ne_nil _ (by simp [hText])
          obtain ⟨front, run, back, rfl, hStart, hStop, hHead, hMerged⟩ := ih tail
          have hBorder' : Border false text (front ++ joined (first :: more) ++ back) :=
            Or.inr (hHead ▸ hBorder.resolve_left hRest)
          have hWhole := Layout.token hGap hText hSolid hBorder' hMerged
          refine ⟨gap ++ text ++ front, run, back, by simp, ?_, ?_, ?_, by simpa using hWhole⟩
          · rw [hStart]
            simp [Nat.add_assoc]
          · rw [hStop]
            simp [Nat.add_assoc]
          · rw [hFirst, List.append_assoc (gap ++ text ++ front), List.append_assoc (gap ++ text), hFirst]

end Layout

/-- The text on both sides of a token. -/
theorem exists_around {t : Text} {token : Token} (h : token ∈ tokenize t) :
    ∃ front back, t = front ++ token.text ++ back ∧
      token.span = ⟨front.size, front.size + token.text.size⟩ := by
  have hParts := ((layout_tokenize t).within_of_mem h).exists_parts
  rwa [(layout_tokenize t).slice_of_mem h] at hParts

theorem slice_mem_gaps (t : Text) (start : Nat) (before after : List Token) (a b : Token) :
    t.slice ⟨a.span.stop, b.span.start⟩ ∈ gaps t start (before ++ a :: b :: after) := by
  induction before generalizing start with
  | nil => exact List.mem_cons_of_mem _ List.mem_cons_self
  | cons token before ih => exact List.mem_cons_of_mem _ (ih token.span.stop)

/-- The span from the first of some tokens to the end of the last one lies in their text. -/
theorem within_run {t : Text} {before more after : List Token} {first next : Token}
    (h : tokenize t = before ++ (first :: next :: more ++ after)) :
    Span.Within ⟨first.span.start, ((first :: next :: more).getLast (by simp)).span.stop⟩ t := by
  have hWithin {token : Token} (hToken : token ∈ first :: next :: more) : token.span.Within t := by
    refine (layout_tokenize t).within_of_mem (h ▸ ?_)
    exact List.mem_append_right _ (List.mem_append_left _ hToken)
  have hOrder := (layout_tokenize t).pairwise_stop_lt
  rw [h, List.pairwise_append, List.pairwise_append, List.pairwise_cons] at hOrder
  obtain ⟨-, ⟨⟨hFirst, -⟩, -⟩, -⟩ := hOrder
  rw [List.getLast_cons (List.cons_ne_nil next more)]
  have hLast := List.getLast_mem (List.cons_ne_nil next more)
  exact (hWithin List.mem_cons_self).join (hWithin (List.mem_cons_of_mem _ hLast))
    (Nat.le_of_lt (hFirst _ hLast))

section Tokenize

variable {t : Text} {before more after : List Token} {first : Token}

/-- The tokens of a line once the gaps between some consecutive ones are closed. -/
theorem tokenize_merged (h : tokenize t = before ++ (first :: more ++ after)) :
    let last := (first :: more).getLast (by simp)
    tokenize (t.takeBytes first.span.start ++ joined (first :: more) ++ t.dropBytes last.span.stop) =
      before ++ merged first more ::
        after.map (moveUp (last.span.stop - (merged first more).span.stop)) := by
  intro last
  obtain ⟨front, run, back, rfl, hStart, hStop, -, hMerged⟩ := Layout.merge (h ▸ layout_tokenize t)
  rw [Nat.zero_add] at hStart hStop
  have hLast : last.span.stop = front.size + run.size := hStop
  have hClosed : run.size - (joined (first :: more)).size =
      last.span.stop - (merged first more).span.stop := by
    rw [hLast, merged, hStart]
    exact (Nat.add_sub_add_left ..).symm
  have hFront : (front ++ run ++ back).takeBytes first.span.start = front :=
    Text.takeBytes_of_eq (List.append_assoc ..) hStart
  have hBack : (front ++ run ++ back).dropBytes last.span.stop = back :=
    Text.dropBytes_of_eq rfl (by rw [hLast, Text.size_append])
  rw [hFront, hBack, ← hClosed]
  exact layout_iff.mp hMerged

/-- The gap between two consecutive tokens, and the tokens once it is closed. -/
theorem tokenize_closed {a b : Token} (h : tokenize t = before ++ a :: b :: after) :
    let gap := b.span.start - a.span.stop
    a.span.stop < b.span.start ∧ isAllGap (t.slice ⟨a.span.stop, b.span.start⟩) = true ∧
      tokenize (t.takeBytes a.span.stop ++ t.dropBytes b.span.start) =
        before ++ ⟨a.text ++ b.text, ⟨a.span.start, b.span.stop - gap⟩⟩ :: after.map (moveUp gap) := by
  intro gap
  have hMem {token : Token} (hToken : token = a ∨ token = b) : token ∈ tokenize t := by
    rw [h]
    rcases hToken with rfl | rfl <;> simp
  have hLess : a.span.stop < b.span.start := by
    have hOrder := (layout_tokenize t).pairwise_stop_lt
    rw [h, List.pairwise_append, List.pairwise_cons] at hOrder
    exact hOrder.2.1.1 b List.mem_cons_self
  refine ⟨hLess, ?_, ?_⟩
  · have hGaps := ((layout_tokenize t).gaps_spec [] rfl).1
    rw [List.nil_append] at hGaps
    exact hGaps _ (h ▸ slice_mem_gaps t 0 before after a b)
  · obtain ⟨front, behind, hA, hSpanA⟩ := exists_around (hMem (Or.inl rfl))
    obtain ⟨ahead, back, hB, hSpanB⟩ := exists_around (hMem (Or.inr rfl))
    have hTake : t.takeBytes a.span.stop = t.takeBytes a.span.start ++ a.text := by
      rw [Text.takeBytes_of_eq hA (by rw [hSpanA, Text.size_append]),
        Text.takeBytes_of_eq (hA.trans (List.append_assoc ..)) (by rw [hSpanA])]
    have hDrop : t.dropBytes b.span.start = b.text ++ t.dropBytes b.span.stop := by
      rw [Text.dropBytes_of_eq (hB.trans (List.append_assoc ..)) (by rw [hSpanB]),
        Text.dropBytes_of_eq hB (by rw [hSpanB, Text.size_append])]
    have hJoined : joined [a, b] = a.text ++ b.text := by simp [joined]
    have hStop : (merged a [b]).span.stop = a.span.stop + b.text.size := by
      rw [merged, hJoined, Text.size_append, hSpanA]
      exact (Nat.add_assoc ..).symm
    have hLast : b.span.stop = b.span.start + b.text.size := by rw [hSpanB]
    have hClosed : b.span.stop - (merged a [b]).span.stop = gap := by omega
    have hMerged : merged a [b] = ⟨a.text ++ b.text, ⟨a.span.start, b.span.stop - gap⟩⟩ := by
      rw [show b.span.stop - gap = (merged a [b]).span.stop by omega, ← hJoined]
      rfl
    have hTokens := @tokenize_merged t before [b] after a h
    rw [hTake, hDrop, ← hMerged, ← hClosed, List.append_assoc, ← List.append_assoc a.text, ← hJoined,
      ← List.append_assoc]
    exact hTokens

end Tokenize

end Token

end ErDiagram
