import ErDiagram.Proofs.Name
import ErDiagram.Reading

/-!
What the header of an entity looks like, and the footer. A layout names the parts of a header; its
name is found exactly where a layout of the code puts it.
-/

namespace ErDiagram

namespace Grammar.WellFormed

variable {g : Grammar}

theorem not_isBlank_of_mem (hg : g.WellFormed) {o : Text} (ho : o ∈ g.operators) {c : Char}
    (hc : c ∈ o) : isBlank c = false :=
  Text.hasBlank_eq_false_iff.mp (hg.operator o ho).hasBlank c hc

theorem hasOperator_of_blank (hg : g.WellFormed) {blanks : Text} (hBlanks : blanks.isAllBlank) :
    g.hasOperator blanks = false := by
  rw [hasOperator_eq_false_iff]
  intro o ho hInfix
  obtain ⟨c, hc⟩ := List.exists_mem_of_ne_nil o (hg.operator o ho).ne_nil
  have hBlank := Text.isAllBlank_iff.mp hBlanks c (hInfix.subset hc)
  rw [hg.not_isBlank_of_mem ho hc] at hBlank
  cases hBlank

/-- No operator reaches over a blank at which two parts meet. -/
theorem hasOperator_append (hg : g.WellFormed) {a b : Text}
    (hMeet : b = [] ∨ (∃ c, b.head? = some c ∧ isBlank c = true) ∨
      ∃ c, a.getLast? = some c ∧ isBlank c = true)
    (ha : g.hasOperator a = false) (hb : g.hasOperator b = false) :
    g.hasOperator (a ++ b) = false := by
  rw [hasOperator_eq_false_iff] at ha hb ⊢
  rintro o ho ⟨x, y, hEq⟩
  have hNotIn {c : Char} (hc : isBlank c = true) : c ∉ o :=
    Text.not_mem_of_hasBlank (hg.operator o ho).hasBlank hc
  have hBorder : b = [] ∨ (∃ c, b.head? = some c ∧ c ∉ o) ∨ ∃ c, a.getLast? = some c ∧ c ∉ o :=
    hMeet.imp id (Or.imp (fun ⟨c, hHead, hc⟩ => ⟨c, hHead, hNotIn hc⟩)
      fun ⟨c, hLast, hc⟩ => ⟨c, hLast, hNotIn hc⟩)
  rcases Text.of_append_eq_append hEq hBorder with ⟨z, hz, -⟩ | ⟨z, -, hz⟩
  · exact ha o ho ⟨x, z, hz.symm⟩
  · exact hb o ho ⟨z, y, hz.symm⟩

theorem hasOperator_append_blank (hg : g.WellFormed) (t : Text) {blanks : Text}
    (hBlanks : blanks.isAllBlank) (h : g.hasOperator t = false) :
    g.hasOperator (t ++ blanks) = false := by
  refine hg.hasOperator_append ?_ h (hg.hasOperator_of_blank hBlanks)
  cases blanks with
  | nil => exact Or.inl rfl
  | cons c blanks =>
      exact Or.inr (Or.inl ⟨c, rfl, Text.isAllBlank_iff.mp hBlanks c List.mem_cons_self⟩)

theorem hasOperator_blank_append (hg : g.WellFormed) {blanks t : Text}
    (hBlanks : blanks.isAllBlank) (h : g.hasOperator t = false) :
    g.hasOperator (blanks ++ t) = false := by
  by_cases hNil : blanks = []
  · rwa [hNil, List.nil_append]
  · have hLast := List.getLast?_eq_some_getLast hNil
    exact hg.hasOperator_append
      (Or.inr (Or.inr ⟨_, hLast, Text.isAllBlank_iff.mp hBlanks _ (List.mem_of_getLast? hLast)⟩))
      (hg.hasOperator_of_blank hBlanks) h

end Grammar.WellFormed

theorem Grammar.hasOperator_eq_false_of_infix {g : Grammar} {a t : Text} (hInfix : a <:+: t)
    (h : g.hasOperator t = false) : g.hasOperator a = false := by
  rw [hasOperator_eq_false_iff] at h ⊢
  exact fun o ho hMem => h o ho (hMem.trans hInfix)

/-- The name of an entity, what follows it from a bracket on, and the brace at the end. -/
structure HeaderLayout where
  name : Text
  gap : Text
  bracketed : Text
  trail : Text

namespace HeaderLayout

def text (s : HeaderLayout) : Text :=
  s.name ++ s.gap ++ s.bracketed ++ '\x7b' :: s.trail

/-- The name ends with no blank and in front of any bracket, and no operator is in the line. -/
structure Valid (s : HeaderLayout) (g : Grammar) : Prop where
  ne_nil : s.name ≠ []
  trimmed : s.name.trimEnd = s.name
  bracket : '[' ∉ s.name
  gap : s.gap.isAllBlank
  bracketed : s.bracketed = [] ∨ s.bracketed.head? = some '['
  trail : s.trail.isAllBlank
  operator : g.hasOperator s.text = false

/-- The layout with a name in place of its own. -/
def renamed (s : HeaderLayout) (name : Text) : HeaderLayout :=
  { s with name }

theorem underscored_renamed {s : HeaderLayout} {name : Text} (h : Underscored s.name name) :
    Underscored s.text (s.renamed name).text :=
  ((h.append (.refl s.gap)).append (.refl s.bracketed)).append (.refl ('\x7b' :: s.trail))

/-- Underscores for hyphens in the name leave the layout valid. -/
theorem Valid.renamed {g : Grammar} (hInert : g.Inert) {s : HeaderLayout} (h : s.Valid g)
    {name : Text} (hName : Underscored s.name name) : (s.renamed name).Valid g where
  ne_nil := hName.ne_nil h.ne_nil
  trimmed := by
    apply Text.trimEnd_eq_self
    intro c hc
    apply Bool.eq_false_iff.mpr
    intro hBlank
    have hLast := hName.last_of_blank hc hBlank
    have hOld := Text.trimEnd_eq_self_iff.mp h.trimmed c hLast
    rw [hOld] at hBlank
    cases hBlank
  bracket := fun hMem => h.bracket (hName.mem_of_mem hMem (by decide))
  gap := h.gap
  bracketed := h.bracketed
  trail := h.trail
  operator := hInert.hasOperator_of_underscored (underscored_renamed hName) h.operator

theorem text_eq (s : HeaderLayout) :
    s.text = s.name ++ (s.gap ++ s.bracketed ++ '\x7b' :: s.trail) := by
  simp [text]

theorem slice_name (s : HeaderLayout) : s.text.slice ⟨0, s.name.size⟩ = s.name :=
  Text.slice_of_eq (a := []) s.text_eq rfl (Nat.zero_add _).symm

/-- The text in front of any bracket in a header is not blank. -/
theorem Valid.not_blank {g : Grammar} {s : HeaderLayout} (h : s.Valid g) :
    Text.isAllBlank ((s.name ++ s.gap ++ s.bracketed).takeWhile (· != '[')) = false := by
  obtain ⟨c, hLast⟩ : ∃ c, s.name.getLast? = some c :=
    ⟨_, List.getLast?_eq_some_getLast h.ne_nil⟩
  have hBlank : isBlank c = false := Text.trimEnd_eq_self_iff.mp h.trimmed c hLast
  have hMem : c ∈ (s.name ++ s.gap ++ s.bracketed).takeWhile (· != '[') := by
    rw [List.append_assoc, List.takeWhile_append_of_pos]
    · exact List.mem_append_left _ (List.mem_of_getLast? hLast)
    · intro d hd
      rw [bne_iff_ne]
      rintro rfl
      exact h.bracket hd
  apply Bool.eq_false_iff.mpr
  intro hAll
  rw [Text.isAllBlank_iff.mp hAll c hMem] at hBlank
  cases hBlank

end HeaderLayout

namespace Reading

theorem trimEnd_brace (t : Text) {trail : Text} (h : trail.isAllBlank) :
    Text.trimEnd (t ++ '\x7b' :: trail) = t ++ ['\x7b'] := by
  have hBrace : Text.Tight ['\x7b'] := .of_hasBlank (by simp) rfl
  rw [← List.singleton_append, ← List.append_assoc, Text.trimEnd_append_of_blank _ h,
    hBrace.trimEnd_append]

/-- Whatever the operators of the grammar are, a name that is found is what the line starts with. -/
theorem exists_of_header? {g : Grammar} {code : Text} {span : Span}
    (h : header? g code = some span) :
    ∃ name rest, code = name ++ rest ∧ name ≠ [] ∧ span = ⟨0, name.size⟩ := by
  simp only [header?] at h
  split at h
  next hHeader =>
    have hPrefix :=
      (((Text.trimEnd_prefix _).trans (List.takeWhile_prefix (· != '['))).trans
        ((Text.trimEnd_prefix _).trans (List.dropLast_prefix _))).trans (Text.trimEnd_prefix code)
    obtain ⟨rest, hRest⟩ := hPrefix
    exact ⟨_, rest, hRest.symm, by simpa using hHeader.2.2, (Option.some.inj h).symm⟩
  next => cases h

/-- A layout shows its name. -/
theorem header?_of_valid {g : Grammar} {s : HeaderLayout} (h : s.Valid g) :
    header? g s.text = some ⟨0, s.name.size⟩ := by
  have hTrimmed : s.text.trimEnd = s.name ++ s.gap ++ s.bracketed ++ ['\x7b'] :=
    trimEnd_brace _ h.trail
  have hOperator : g.hasOperator s.text.trimEnd = false :=
    Grammar.hasOperator_eq_false_of_infix
      ⟨[], s.trail, by rw [hTrimmed]; simp [HeaderLayout.text]⟩ h.operator
  have hInName {c : Char} (hc : c ∈ s.name) : (c != '[') = true := by
    rw [bne_iff_ne]
    rintro rfl
    exact h.bracket hc
  have hInGap {c : Char} (hc : c ∈ s.gap) : (c != '[') = true := by
    rw [bne_iff_ne]
    rintro rfl
    cases Text.isAllBlank_iff.mp h.gap _ hc
  have hName : Text.trimEnd
      ((Text.trimEnd (s.name ++ s.gap ++ s.bracketed)).takeWhile (· != '[')) = s.name := by
    rcases h.bracketed with hNil | hHead
    · rw [hNil, List.append_nil, Text.trimEnd_append_of_blank _ h.gap, h.trimmed,
        List.takeWhile_eq_self_iff.mpr fun c hc => hInName hc, h.trimmed]
    · cases hBracketed : s.bracketed with
      | nil => rw [hBracketed] at hHead; cases hHead
      | cons c rest =>
          rw [hBracketed] at hHead
          obtain rfl : c = '[' := Option.some.inj hHead
          rw [Text.trimEnd_append_of_not_blank _ (by rfl), Text.trimEnd_cons (by rfl),
            List.takeWhile_append_of_pos, List.takeWhile_cons_of_neg (by simp), List.append_nil,
            Text.trimEnd_append_of_blank _ h.gap, h.trimmed]
          intro d hd
          rcases List.mem_append.mp hd with hIn | hIn
          · exact hInName hIn
          · exact hInGap hIn
  have hLast : s.text.trimEnd.getLast? = some '\x7b' := by
    rw [hTrimmed, List.getLast?_concat]
  have hDrop : s.text.trimEnd.dropLast = s.name ++ s.gap ++ s.bracketed := by
    rw [hTrimmed, List.dropLast_concat]
  have hIsName : s.text.trimEnd.getLast? = some '\x7b' ∧ !g.hasOperator s.text.trimEnd ∧
      !s.name.isEmpty := ⟨hLast, by simp [hOperator], by simp [h.ne_nil]⟩
  simp only [header?, hDrop, hName]
  exact if_pos hIsName

/-- A name that is found has a layout. -/
theorem exists_valid_header {g : Grammar} (hg : g.WellFormed) {code : Text} {span : Span}
    (h : header? g code = some span) :
    ∃ s : HeaderLayout, s.Valid g ∧ code = s.text ∧ span = ⟨0, s.name.size⟩ := by
  simp only [header?] at h
  split at h
  next hHeader =>
    obtain ⟨hLast, hOperator, hName⟩ := hHeader
    obtain rfl := Option.some.inj h
    obtain ⟨trail, hTrail, hCode⟩ := Text.exists_trimEnd code
    obtain ⟨body, hTrimmed⟩ := List.getLast?_eq_some_iff.mp hLast
    rw [hTrimmed, Bool.not_eq_true'] at hOperator
    rw [hTrimmed, List.dropLast_concat] at hName ⊢
    obtain ⟨gap₂, hGap₂, hBody⟩ := Text.exists_trimEnd body
    obtain ⟨gap, hGap, hHead⟩ := Text.exists_trimEnd ((Text.trimEnd body).takeWhile (· != '['))
    have hSplit := (@List.takeWhile_append_dropWhile _ (· != '[') (Text.trimEnd body)).symm
    have hNe : Text.trimEnd ((Text.trimEnd body).takeWhile (· != '[')) ≠ [] := by simpa using hName
    generalize hNameText : Text.trimEnd ((Text.trimEnd body).takeWhile (· != '[')) = name at *
    have hBracket : '[' ∉ name := by
      intro hMem
      have hIn : '[' ∈ (Text.trimEnd body).takeWhile (· != '[') := by rw [hHead]; simp [hMem]
      simpa using List.mem_takeWhile_imp hIn
    have hOpen := List.head?_dropWhile_not (· != '[') (Text.trimEnd body)
    have hTrim : Text.trimEnd name = name := by
      rw [← hNameText]
      exact Text.trimEnd_eq_self fun c hc => Text.last_trimEnd hc
    have hText : code = body ++ '\x7b' :: trail := by
      rw [hTrimmed] at hCode
      simpa using hCode
    have hNone : g.hasOperator code = false := by
      rw [hCode, hTrimmed]
      exact hg.hasOperator_append_blank _ hTrail hOperator
    cases hRest : (Text.trimEnd body).dropWhile (· != '[') with
    | nil =>
        have hEq : code = HeaderLayout.text ⟨name, gap ++ gap₂, [], trail⟩ := by
          rw [hText, hBody, hSplit, hRest, hHead]
          simp [HeaderLayout.text]
        refine ⟨⟨name, gap ++ gap₂, [], trail⟩, ?_, hEq, rfl⟩
        exact ⟨hNe, hTrim, hBracket, by simp [hGap, hGap₂], Or.inl rfl, hTrail, hEq ▸ hNone⟩
    | cons c rest =>
        have hc : c = '[' := by simpa [hRest] using hOpen
        have hEq : code = HeaderLayout.text ⟨name, gap, c :: rest ++ gap₂, trail⟩ := by
          rw [hText, hBody, hSplit, hRest, hHead]
          simp [HeaderLayout.text]
        refine ⟨⟨name, gap, c :: rest ++ gap₂, trail⟩, ?_, hEq, rfl⟩
        exact ⟨hNe, hTrim, hBracket, hGap, Or.inr (by rw [hc]; rfl), hTrail, hEq ▸ hNone⟩
  next => cases h

/-- The name of a header is found exactly where a layout puts it. -/
theorem header?_eq_some_iff {g : Grammar} (hg : g.WellFormed) {code : Text} {span : Span} :
    header? g code = some span ↔
      ∃ s : HeaderLayout, s.Valid g ∧ code = s.text ∧ span = ⟨0, s.name.size⟩ := by
  refine ⟨exists_valid_header hg, ?_⟩
  rintro ⟨s, hValid, rfl, rfl⟩
  exact header?_of_valid hValid

/-- A text with a brace behind something that is neither blank nor in brackets is a header, unless it
has an operator. -/
theorem exists_header {g : Grammar} {body trail : Text} (hTrail : trail.isAllBlank)
    (hBody : Text.isAllBlank (body.takeWhile (· != '[')) = false)
    (hOperator : g.hasOperator (body ++ '\x7b' :: trail) = false) :
    ∃ span, header? g (body ++ '\x7b' :: trail) = some span := by
  have hTrimmed := trimEnd_brace body hTrail
  obtain ⟨blanks, hBlanks, hSplit⟩ := Text.exists_trimEnd body
  have hName : Text.trimEnd ((Text.trimEnd body).takeWhile (· != '[')) ≠ [] := by
    intro hNil
    have hAll := Text.isAllBlank_of_trimEnd_eq_nil hNil
    refine Bool.eq_false_iff.mp hBody ?_
    rw [hSplit, List.takeWhile_append]
    split
    next hWhole =>
      rw [(List.takeWhile_prefix _).eq_of_length hWhole] at hAll
      rw [Text.isAllBlank_append, hAll, Bool.true_and, Text.isAllBlank_iff]
      exact fun c hc => Text.isAllBlank_iff.mp hBlanks c ((List.takeWhile_prefix _).subset hc)
    next => exact hAll
  refine ⟨⟨0, Text.size (Text.trimEnd ((Text.trimEnd body).takeWhile (· != '[')))⟩, ?_⟩
  have hNone : g.hasOperator (body ++ ['\x7b']) = false :=
    Grammar.hasOperator_eq_false_of_infix ⟨[], trail, by simp⟩ hOperator
  simp only [header?, hTrimmed, List.dropLast_concat, List.getLast?_concat]
  exact if_pos ⟨trivial, by simp [hNone], by simpa using hName⟩

end Reading

end ErDiagram
