import ErDiagram.Proofs.Token.Parser

/-!
What stands between the tokens of a line. Tokens and gaps make up the line without a rest, and a space or
a tab belongs to a token exactly when double quotes are open in front of it.
-/

namespace ErDiagram

namespace Token

/-- The texts around tokens of a text, from a position on: in front of each token, and behind the last
one. -/
def gaps (t : Text) (start : Nat) : List Token → List Text
  | [] => [t.slice ⟨start, t.size⟩]
  | token :: more => t.slice ⟨start, token.span.start⟩ :: gaps t token.span.stop more

/-- Texts and tokens in turn, a text first. -/
def interleave : List Text → List Token → Text
  | gap :: rest, token :: more => gap ++ token.text ++ interleave rest more
  | rest, _ => rest.flatten

/-- Whether a token covers a position. -/
def Covers (token : Token) (position : Nat) : Prop :=
  token.span.start ≤ position ∧ position < token.span.stop

/-- Quotes are open behind an odd number of them. -/
theorem quotedAfter_eq_true_iff {quoted : Bool} {t : Text} :
    quotedAfter quoted t = true ↔ (t.count '"' + quoted.toNat) % 2 = 1 := by
  induction t generalizing quoted with
  | nil => cases quoted <;> decide
  | cons c t ih =>
      rw [quotedAfter, ih]
      by_cases hc : c = '"'
      · subst hc
        rw [List.count_cons_self, beq_self_eq_true]
        cases quoted with
        | false => exact (Nat.add_assoc ..).symm ▸ Iff.rfl
        | true =>
            change (t.count '"' + 0) % 2 = 1 ↔ (t.count '"' + 1 + 1) % 2 = 1
            omega
      · rw [List.count_cons_of_ne hc, beq_eq_false_iff_ne.mpr hc, Bool.bne_false]

theorem quotedAfter_of_isAllGap {t : Text} (h : isAllGap t = true) : quotedAfter false t = false := by
  refine quotedAfter_of_not_mem (fun hMem => ?_) false
  cases List.all_eq_true.mp h _ hMem

namespace Layout

variable {start : Nat} {t : Text} {tokens : List Token}

/-- The texts around the tokens are gaps, and nothing is lost between them. -/
theorem gaps_spec (h : Layout start t tokens) (front : Text) (hFront : front.size = start) :
    (∀ gap ∈ gaps (front ++ t) start tokens, isAllGap gap = true) ∧
      interleave (gaps (front ++ t) start tokens) tokens = t := by
  induction h generalizing front with
  | @gap start gap hGap =>
      have hSlice : (front ++ gap).slice ⟨start, (front ++ gap).size⟩ = gap :=
        Text.slice_of_eq (List.append_nil _).symm hFront.symm (Text.size_append ..)
      rw [gaps, hSlice]
      exact ⟨List.forall_mem_singleton.mpr hGap, List.append_nil gap⟩
  | @token start gap text rest more hGap hText hSolid hBorder tail ih =>
      have hSlice : (front ++ (gap ++ text ++ rest)).slice ⟨start, start + gap.size⟩ = gap :=
        Text.slice_of_eq (c := text ++ rest) (by simp) hFront.symm (by rw [hFront])
      have hRest := ih (front ++ gap ++ text) (by simp [hFront, Nat.add_assoc])
      rw [show front ++ gap ++ text ++ rest = front ++ (gap ++ text ++ rest) by simp] at hRest
      rw [gaps, hSlice, interleave, hRest.2]
      exact ⟨List.forall_mem_cons.mpr ⟨hGap, hRest.1⟩, rfl⟩

/-- A separating character belongs to a token exactly when quotes are open in front of it. -/
theorem covers_iff (h : Layout start t tokens) {a b : Text} {c : Char} (hText : t = a ++ c :: b)
    (hc : isGap c = true) :
    (∃ token ∈ tokens, token.Covers (start + a.size)) ↔ quotedAfter false a = true := by
  induction h generalizing a with
  | @gap start gap hGap =>
      rw [hText, isAllGap, List.all_append, Bool.and_eq_true] at hGap
      rw [quotedAfter_of_isAllGap hGap.1]
      exact iff_of_false nofun Bool.false_ne_true
  | @token start gap text rest more hGap hNe hSolid hBorder tail ih =>
      have hLater : ∀ token ∈ more, start + gap.size + text.size ≤ token.span.start :=
        fun _ => tail.start_le
      have hGapQuotes := quotedAfter_of_isAllGap hGap
      rcases Text.split_append_cons hText with ⟨z, hFront, -⟩ | ⟨z, rfl, hRest⟩
      · rcases Text.split_append_cons hFront with ⟨w, rfl, -⟩ | ⟨w, rfl, rfl⟩
        · -- The character stands in the gap, in front of all tokens.
          rw [isAllGap, List.all_append, Bool.and_eq_true] at hGap
          rw [quotedAfter_of_isAllGap hGap.1]
          refine iff_of_false ?_ Bool.false_ne_true
          rintro ⟨token, hToken, hStart, -⟩
          have hc := Char.utf8Size_pos c
          simp only [Text.size_append, Text.size_cons] at hLater
          rcases List.mem_cons.mp hToken with rfl | hMore
          · simp only [Text.size_append, Text.size_cons] at hStart
            omega
          · have := hLater token hMore
            omega
        · -- The character stands in the first token, which is solid.
          rw [isSolid_append, isSolid, Bool.and_eq_true, Bool.and_eq_true, hc] at hSolid
          have hOpen : quotedAfter false w = true := by simpa using hSolid.2.1
          rw [quotedAfter_append, hGapQuotes, hOpen]
          refine iff_of_true ⟨_, List.mem_cons_self, ?_, ?_⟩ rfl
          · simp only [Text.size_append]
            omega
          · have hc := Char.utf8Size_pos c
            simp only [Text.size_append, Text.size_cons]
            omega
      · -- The character stands behind the first token, which has closed its quotes.
        have hClosed : quotedAfter false text = false :=
          (hBorder.resolve_left (by rw [hRest]; simp)).1
        have hMore := ih hRest
        rw [quotedAfter_append, quotedAfter_append, hGapQuotes, hClosed, ← hMore]
        simp only [Text.size_append, ← Nat.add_assoc]
        constructor
        · rintro ⟨token, hToken, hCovers⟩
          rcases List.mem_cons.mp hToken with rfl | hIn
          · have hStop := hCovers.2
            simp only at hStop
            omega
          · exact ⟨token, hIn, hCovers⟩
        · rintro ⟨token, hToken, hCovers⟩
          exact ⟨token, List.mem_cons_of_mem _ hToken, hCovers⟩

end Layout

end Token

open Token in
/-- The grammar of a line reads every text to its end, so the tokens are always those that it gives. They
are not empty, stand in order with something between them, and hold the text at their spans; around them
are only spaces and tabs, and nothing is lost. A space or a tab belongs to a token exactly behind an odd
number of double quotes. -/
theorem tokenize_lossless (t : Text) :
    Parser.line ⟨0, t⟩ = some (tokenize t, ⟨t.size, []⟩) ∧
      (∀ token ∈ tokenize t,
        token.text ≠ [] ∧ token.span.Within t ∧ t.slice token.span = token.text) ∧
      ((tokenize t).Pairwise fun a b => a.span.stop < b.span.start) ∧
      (∀ gap ∈ gaps t 0 (tokenize t), isAllGap gap = true) ∧
      interleave (gaps t 0 (tokenize t)) (tokenize t) = t ∧
      ∀ (a b : Text) (c : Char), t = a ++ c :: b → isGap c = true →
        ((∃ token ∈ tokenize t, token.Covers a.size) ↔ a.count '"' % 2 = 1) := by
  have hLayout := layout_tokenize t
  obtain ⟨hGaps, hWhole⟩ := hLayout.gaps_spec [] rfl
  refine ⟨Parser.line_eq t, fun token hToken => ?_, hLayout.pairwise_stop_lt, hGaps, hWhole,
    fun a b c hText hc => ?_⟩
  · have hWithin := hLayout.within Text.size_nil hToken
    rw [List.nil_append] at hWithin
    exact ⟨hLayout.text_ne_nil hToken, hWithin, hLayout.slice_of_mem hToken⟩
  · have hCovers := hLayout.covers_iff hText hc
    rwa [Nat.zero_add, quotedAfter_eq_true_iff, Bool.toNat_false, Nat.add_zero] at hCovers

/-- The last quote is never closed, so the space in front of the last character does not separate. -/
theorem tokenize_lossless_open :
    let a : Text := "\tab \"c d\"e f\"g".toList
    let t : Text := a ++ " h".toList
    t = a ++ ' ' :: ['h'] ∧ isGap ' ' = true ∧ a.count '"' % 2 = 1 ∧
      (∃ token ∈ tokenize t, token.Covers a.size) ∧
      Token.gaps t 0 (tokenize t) = ["\t".toList, " ".toList, " ".toList, []] := by
  intro a t
  have hOdd : a.count '"' % 2 = 1 := by decide
  exact ⟨rfl, rfl, hOdd, ((tokenize_lossless t).2.2.2.2.2 a ['h'] ' ' rfl rfl).mpr hOdd, by decide⟩

end ErDiagram
