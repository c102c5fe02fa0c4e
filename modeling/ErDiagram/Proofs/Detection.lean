import ErDiagram.Detection
import ErDiagram.Proofs.Repair.Seam
import ErDiagram.Proofs.Text.Case

/-!
Detection. The keyword is looked for on the first line with content: blank lines and directives in front
of it are skipped. Operators are looked for on every line, the skipped ones included, so a text with a
preamble is detected exactly if the text itself is or an operator stands in the preamble.
-/

namespace ErDiagram

namespace Detection

section Keyword

theorem startsWithKeyword_append_cons {c : Char} (hc : c.toLower ∉ keyword) (a b : Text) :
    startsWithKeyword (a ++ c :: b) = startsWithKeyword a := by
  rw [startsWithKeyword, startsWithKeyword, Text.foldCase, List.map_append, List.map_cons]
  exact Text.isPrefixOf_append_cons hc _ _

theorem toNat_of_mem_keyword {c : Char} (h : c ∈ keyword) : 97 ≤ c.toNat ∧ c.toNat ≤ 122 := by
  have hLetters : keyword.all (fun d => decide (97 ≤ d.toNat ∧ d.toNat ≤ 122)) = true := by decide
  exact of_decide_eq_true (List.all_eq_true.mp hLetters c h)

/-- Blanks at the end do not bear on the keyword at the start. -/
theorem startsWithKeyword_trimEnd (t : Text) : startsWithKeyword t.trimEnd = startsWithKeyword t := by
  rw [startsWithKeyword, startsWithKeyword, Text.foldCase_trimEnd]
  exact Text.isPrefixOf_trimEnd (by decide) t.foldCase

/-- What is known of the lower-case form of a character. In ASCII only the letters A to Z have another
form. Behind ASCII the capital I with a dot has an i and a combining dot, and no other form starts with a
letter of the keyword. -/
structure IsLowerForm (c : Char) (form : Text) : Prop where
  ascii : c.toNat < 128 → form = [c.toLower]
  other : 128 ≤ c.toNat → form = ['i', '\u0307'] ∨ ∃ d rest, form = d :: rest ∧ d ∉ keyword

/-- No end of the keyword is found in such a form: the keyword has no dot, and it does not end with an i. -/
theorem IsLowerForm.not_prefix {c : Char} {form : Text} (h : IsLowerForm c form) (hc : 128 ≤ c.toNat)
    {x : Char} {pattern : Text} (hPattern : x :: pattern <:+ keyword) (rest : Text) :
    ¬ x :: pattern <+: form ++ rest := by
  intro hForm
  rcases h.other hc with rfl | ⟨d, more, rfl, hd⟩
  · obtain ⟨rfl, hDot⟩ := List.cons_prefix_cons.mp hForm
    cases pattern with
    | nil => exact absurd hPattern (by decide)
    | cons y pattern =>
        obtain ⟨rfl, -⟩ := List.cons_prefix_cons.mp hDot
        have hMem : '\u0307' ∈ keyword := hPattern.subset (by simp)
        exact absurd hMem (by decide)
  · obtain ⟨rfl, -⟩ := List.cons_prefix_cons.mp hForm
    exact hd (hPattern.subset List.mem_cons_self)

theorem prefix_lowerForms_iff {pattern line : Text} {forms : List Text}
    (hPattern : pattern <:+ keyword) (h : List.Forall₂ IsLowerForm line forms) :
    pattern <+: forms.flatten ↔ pattern <+: Text.foldCase line := by
  induction h generalizing pattern with
  | nil => rfl
  | @cons c form line forms hForm hRest ih =>
      cases pattern with
      | nil => simp
      | cons x pattern =>
          change _ <+: form ++ forms.flatten ↔ _ <+: c.toLower :: Text.foldCase line
          by_cases hAscii : c.toNat < 128
          · rw [hForm.ascii hAscii, List.singleton_append, List.cons_prefix_cons, List.cons_prefix_cons,
              ih ((List.suffix_cons x pattern).trans hPattern)]
          · have hLetter := (toNat_of_mem_keyword (hPattern.subset List.mem_cons_self)).2
            have hSame := toNat_toLower c
            rw [if_neg (by omega)] at hSame
            refine iff_of_false (hForm.not_prefix (Nat.le_of_not_lt hAscii) hPattern _) fun hFolded => ?_
            obtain ⟨rfl, -⟩ := List.cons_prefix_cons.mp hFolded
            omega

/-- The keyword starts a line exactly if it starts the lower-case form of the line. -/
theorem startsWithKeyword_eq_of_lowerForms {line : Text} {forms : List Text}
    (h : List.Forall₂ IsLowerForm line forms) :
    startsWithKeyword line = keyword.isPrefixOf forms.flatten := by
  rw [Bool.eq_iff_iff, startsWithKeyword, List.isPrefixOf_iff_prefix, List.isPrefixOf_iff_prefix]
  exact (prefix_lowerForms_iff (List.suffix_refl keyword) h).symm

/-- The form of the sign for Kelvin is a letter of ASCII, but none of the keyword. -/
example : IsLowerForm '\u212A' ['k'] :=
  ⟨by decide, fun _ => Or.inr ⟨'k', [], rfl, by decide⟩⟩

/-- Behind each of the patterns that are told of anything can follow. -/
theorem startsWithKeyword_of_pattern {pattern line : Text} (hPattern : pattern ∈ patterns)
    (hLine : pattern <+: line) : startsWithKeyword line = true := by
  have hFolded : pattern.foldCase = keyword := by
    obtain rfl := List.mem_singleton.mp hPattern
    decide
  rw [startsWithKeyword, List.isPrefixOf_iff_prefix, ← hFolded]
  exact hLine.map Char.toLower

end Keyword

variable {g : Grammar}

/-- Whether the search for the keyword passes over a line. -/
def IsSkipped (g : Grammar) (body : Text) : Prop :=
  body.trim = [] ∨ g.isDirective body.trim = true

instance (g : Grammar) (body : Text) : Decidable (IsSkipped g body) :=
  inferInstanceAs (Decidable (_ ∨ _))

/-- The first of the lines with content. -/
def leading? (g : Grammar) (bodies : List Text) : Option Text :=
  (bodies.map Text.trim).find? fun line => !line.isEmpty && !g.isDirective line

theorem firstContent?_eq (g : Grammar) (t : Text) : firstContent? g t = leading? g (bodies t) :=
  rfl

theorem leading?_cons_of_skipped {body : Text} (h : IsSkipped g body) (rest : List Text) :
    leading? g (body :: rest) = leading? g rest := by
  rw [leading?, List.map_cons, List.find?_cons_of_neg]
  · rfl
  · rcases h with hNil | hDirective
    · simp [hNil]
    · simp [hDirective]

theorem leading?_cons_of_not_skipped {body : Text} (h : ¬ IsSkipped g body) (rest : List Text) :
    leading? g (body :: rest) = some body.trim := by
  obtain ⟨hNe, hDirective⟩ := not_or.mp h
  rw [leading?, List.map_cons, List.find?_cons_of_pos]
  simp [hNe, hDirective]

theorem leading?_eq_none {bodies : List Text} (h : ∀ body ∈ bodies, IsSkipped g body) :
    leading? g bodies = none := by
  induction bodies with
  | nil => rfl
  | cons body rest ih =>
      rw [leading?_cons_of_skipped (h body List.mem_cons_self)]
      exact ih fun other hOther => h other (List.mem_cons_of_mem _ hOther)

theorem leading?_append (a b : List Text) : leading? g (a ++ b) = (leading? g a).or (leading? g b) := by
  rw [leading?, List.map_append, List.find?_append]
  rfl

theorem bodies_append {a : Text} (h : a.EndsLine) (b : Text) : bodies (a ++ b) = bodies a ++ bodies b := by
  rw [bodies, splitLines_append h, List.map_append]
  rfl

theorem hasRelationship_append {a : Text} (h : a.EndsLine) (b : Text) :
    hasRelationship g (a ++ b) = (hasRelationship g a || hasRelationship g b) := by
  rw [hasRelationship, bodies_append h, List.any_append]
  rfl

end Detection

section Verdict

open Detection

variable {g : Grammar} {t : Text}

theorem confidence_eq_keyword_iff :
    confidence g t = .keyword ↔ (leading? g (bodies t)).any startsWithKeyword = true := by
  rw [confidence, firstContent?_eq]
  split
  next hKeyword => exact iff_of_true rfl hKeyword
  next hOther => split <;> exact iff_of_false nofun hOther

/-- A text that starts with one of the patterns is taken for an ER diagram without any doubt. -/
theorem confidence_of_pattern (hg : g.IsMermaid) {pattern : Text} (hPattern : pattern ∈ patterns)
    (hText : pattern <+: t) : confidence g t = .keyword := by
  obtain ⟨rest, rfl⟩ := hText
  have hHead : ∃ a, pattern = 'e' :: a ∧ '\n' ∉ 'e' :: a ∧ '\r' ∉ 'e' :: a := by
    obtain rfl := List.mem_singleton.mp hPattern
    exact ⟨_, rfl, by decide, by decide⟩
  obtain ⟨a, rfl, hFeed, hReturn⟩ := hHead
  obtain ⟨line, more, hLines, tail, hBody⟩ := exists_body_append hFeed hReturn rest
  have hTrim : line.body.trim = line.body.trimEnd := by
    rw [Text.trim, Text.trimStart_eq_self]
    rw [← hBody]
    rintro c hc
    obtain rfl := Option.some.inj hc
    rfl
  have hNot : ¬ IsSkipped g line.body := by
    rintro (hNil | hDirective)
    · rw [Text.trim_eq_nil_iff, ← hBody] at hNil
      cases hNil
    · rw [hTrim, hg.wellFormed.isDirective_trimEnd, Grammar.isDirective, hg.directivePrefix,
        ← hBody] at hDirective
      cases hDirective
  rw [confidence_eq_keyword_iff, bodies, List.cons_append, hLines, List.map_cons,
    leading?_cons_of_not_skipped hNot, Option.any_some, hTrim, startsWithKeyword_trimEnd]
  exact startsWithKeyword_of_pattern hPattern ⟨tail, hBody⟩

/-- Without the keyword only an operator convinces. -/
theorem isErDiagram_iff :
    isErDiagram g t = true ↔ confidence g t = .keyword ∨ hasRelationship g t = true := by
  rw [confidence_eq_keyword_iff, isErDiagram, confidence, firstContent?_eq]
  cases (leading? g (bodies t)).any startsWithKeyword with
  | true => simp [Confidence.isConvincing]
  | false =>
      cases hasRelationship g t with
      | true => cases hasBlock t <;> simp [Confidence.isConvincing]
      | false => cases hasBlock t <;> simp [Confidence.isConvincing]

/-- Blank lines and directives in front of a text leave the search for the keyword as it is. The text is
detected with them if it is detected alone, and otherwise exactly if one of them has an operator in it. -/
theorem isErDiagram_append_preamble {preamble : Text} (hEnds : preamble.EndsLine)
    (hSkipped : ∀ body ∈ bodies preamble, IsSkipped g body) (t : Text) :
    (confidence g (preamble ++ t) = .keyword ↔ confidence g t = .keyword) ∧
      isErDiagram g (preamble ++ t) = (isErDiagram g t || hasRelationship g preamble) ∧
      (isErDiagram g (preamble ++ t) = isErDiagram g t ↔
        isErDiagram g t = true ∨ hasRelationship g preamble = false) := by
  have hKeyword : confidence g (preamble ++ t) = .keyword ↔ confidence g t = .keyword := by
    rw [confidence_eq_keyword_iff, confidence_eq_keyword_iff, bodies_append hEnds,
      leading?_append, leading?_eq_none hSkipped, Option.none_or]
  have hVerdict : isErDiagram g (preamble ++ t) = (isErDiagram g t || hasRelationship g preamble) := by
    rw [Bool.eq_iff_iff, Bool.or_eq_true, isErDiagram_iff, isErDiagram_iff, hKeyword,
      hasRelationship_append hEnds, Bool.or_eq_true, or_comm (b := hasRelationship g t = true), or_assoc]
  refine ⟨hKeyword, hVerdict, ?_⟩
  rw [hVerdict]
  cases isErDiagram g t with
  | true => simp
  | false => simp

/-- A preamble without an operator, in front of a text of another kind. -/
theorem isErDiagram_append_preamble_exported :
    let preamble := "%% exported by A --> B\r\n \u3000\n".toList
    let t := "graph TD; A-->B".toList
    Text.EndsLine preamble ∧ (∀ body ∈ bodies preamble, IsSkipped Grammar.mermaid body) ∧
      hasRelationship Grammar.mermaid preamble = false ∧
      isErDiagram Grammar.mermaid (preamble ++ t) = isErDiagram Grammar.mermaid t := by
  intro preamble t
  have hEnds : Text.EndsLine preamble := Or.inr (by decide)
  have hSkipped : ∀ body ∈ bodies preamble, IsSkipped Grammar.mermaid body := by decide
  have hNone : hasRelationship Grammar.mermaid preamble = false := by decide
  obtain ⟨-, -, hSame⟩ := isErDiagram_append_preamble hEnds hSkipped t
  exact ⟨hEnds, hSkipped, hNone, hSame.mpr (Or.inr hNone)⟩

/-- An operator in a directive makes an ER diagram of any text behind it. -/
theorem isErDiagram_append_preamble_directive :
    let preamble := "%% A ||--o\x7b B\n".toList
    let t := "graph TD".toList
    Text.EndsLine preamble ∧ (∀ body ∈ bodies preamble, IsSkipped Grammar.mermaid body) ∧
      isErDiagram Grammar.mermaid (preamble ++ t) ≠ isErDiagram Grammar.mermaid t := by
  intro preamble t
  exact ⟨Or.inr (by decide), by decide, by decide⟩

end Verdict

end ErDiagram
