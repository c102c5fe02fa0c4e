import ErDiagram.Proofs.Text.Cut
import ErDiagram.Text.Blank
import Mathlib.Data.List.DropRight

/-!
Trimming. A text that is not blank is blanks, a tight text and blanks again, in one way only, and
trimming gives the tight text.
-/

namespace ErDiagram.Text

@[simp] theorem isAllBlank_nil : isAllBlank [] = true := rfl

@[simp] theorem isAllBlank_cons (c : Char) (t : Text) :
    isAllBlank (c :: t) = (isBlank c && isAllBlank t) := rfl

@[simp] theorem isAllBlank_append (a b : Text) :
    isAllBlank (a ++ b) = (isAllBlank a && isAllBlank b) := List.all_append

theorem isAllBlank_iff {t : Text} : isAllBlank t = true ↔ ∀ c ∈ t, isBlank c = true :=
  List.all_eq_true

@[simp] theorem hasBlank_nil : hasBlank [] = false := rfl

@[simp] theorem hasBlank_cons (c : Char) (t : Text) :
    hasBlank (c :: t) = (isBlank c || hasBlank t) := rfl

@[simp] theorem hasBlank_append (a b : Text) : hasBlank (a ++ b) = (hasBlank a || hasBlank b) :=
  List.any_append

theorem hasBlank_eq_false_iff {t : Text} : hasBlank t = false ↔ ∀ c ∈ t, isBlank c = false := by
  simp [hasBlank]

theorem not_mem_of_hasBlank {t : Text} (h : hasBlank t = false) {c : Char} (hc : isBlank c = true) :
    c ∉ t := by
  intro hMem
  rw [hasBlank_eq_false_iff.mp h c hMem] at hc
  cases hc

theorem trimStart_append_of_blank {a : Text} (h : isAllBlank a) (b : Text) :
    trimStart (a ++ b) = trimStart b :=
  List.dropWhile_append_of_pos (isAllBlank_iff.mp h)

theorem trimEnd_append_of_blank (a : Text) {b : Text} (h : isAllBlank b) :
    trimEnd (a ++ b) = trimEnd a := by
  rw [trimEnd, trimEnd, List.reverse_append, List.dropWhile_append_of_pos]
  intro c hc
  exact isAllBlank_iff.mp h c (List.mem_reverse.mp hc)

theorem trimStart_of_blank {t : Text} (h : isAllBlank t) : trimStart t = [] := by
  have hEmpty := trimStart_append_of_blank h []
  rwa [List.append_nil] at hEmpty

theorem trimEnd_of_blank {t : Text} (h : isAllBlank t) : trimEnd t = [] := by
  simpa [trimEnd] using trimEnd_append_of_blank [] h

/-- The blanks that trimming takes away in front, and those that it takes away behind. -/
theorem exists_trimStart (t : Text) : ∃ lead : Text, isAllBlank lead ∧ t = lead ++ trimStart t := by
  refine ⟨t.takeWhile isBlank, ?_, List.takeWhile_append_dropWhile.symm⟩
  exact isAllBlank_iff.mpr fun c hc => List.mem_takeWhile_imp hc

theorem exists_trimEnd (t : Text) : ∃ trail : Text, isAllBlank trail ∧ t = trimEnd t ++ trail := by
  refine ⟨(t.reverse.takeWhile isBlank).reverse, ?_, ?_⟩
  · apply isAllBlank_iff.mpr
    intro c hc
    exact List.mem_takeWhile_imp (List.mem_reverse.mp hc)
  · rw [trimEnd, ← List.reverse_append, List.takeWhile_append_dropWhile, List.reverse_reverse]

theorem trimEnd_prefix (t : Text) : trimEnd t <+: t := by
  obtain ⟨trail, -, hEq⟩ := exists_trimEnd t
  exact ⟨trail, hEq.symm⟩

/-- What trimming in front leaves does not start with a blank. -/
theorem head_trimStart {t : Text} {c : Char} (h : (trimStart t).head? = some c) :
    isBlank c = false := by
  have hNot := List.head?_dropWhile_not isBlank t
  rw [trimStart] at h
  simpa [h] using hNot

theorem last_trimEnd {t : Text} {c : Char} (h : (trimEnd t).getLast? = some c) :
    isBlank c = false := by
  rw [trimEnd, List.getLast?_reverse] at h
  exact head_trimStart h

theorem trimStart_eq_self {t : Text} (h : ∀ c, t.head? = some c → isBlank c = false) :
    trimStart t = t := by
  cases t with
  | nil => rfl
  | cons c t => simp [trimStart, h c rfl]

theorem trimEnd_eq_self {t : Text} (h : ∀ c, t.getLast? = some c → isBlank c = false) :
    trimEnd t = t := by
  have hReverse : trimStart t.reverse = t.reverse :=
    trimStart_eq_self fun c hc => h c (by rwa [List.head?_reverse] at hc)
  change (trimStart t.reverse).reverse = t
  rw [hReverse, List.reverse_reverse]

theorem trimEnd_eq_self_iff {t : Text} :
    trimEnd t = t ↔ ∀ c, t.getLast? = some c → isBlank c = false :=
  ⟨fun h _ hc => last_trimEnd (h ▸ hc), trimEnd_eq_self⟩

theorem isAllBlank_of_trimEnd_eq_nil {t : Text} (h : trimEnd t = []) : isAllBlank t := by
  obtain ⟨trail, hTrail, hEq⟩ := exists_trimEnd t
  rw [hEq, h]
  simpa using hTrail

/-- A leading part without blanks does not reach into those at the end. -/
theorem isPrefixOf_trimEnd {pattern : Text} (h : hasBlank pattern = false) (t : Text) :
    pattern.isPrefixOf (trimEnd t) = pattern.isPrefixOf t := by
  obtain ⟨blanks, hBlanks, hText⟩ := exists_trimEnd t
  generalize trimEnd t = front at hText
  subst hText
  cases blanks with
  | nil => rw [List.append_nil]
  | cons c blanks =>
      have hc : isBlank c = true := isAllBlank_iff.mp hBlanks c List.mem_cons_self
      exact (isPrefixOf_append_cons (not_mem_of_hasBlank h hc) front blanks).symm

/-- A text that neither starts nor ends with a blank, and is not empty. -/
structure Tight (t : Text) : Prop where
  head : ∃ c, t.head? = some c ∧ isBlank c = false
  last : ∃ c, t.getLast? = some c ∧ isBlank c = false

namespace Tight

variable {t : Text}

theorem ne_nil (h : Tight t) : t ≠ [] := by
  rintro rfl
  obtain ⟨c, hc, -⟩ := h.head
  cases hc

theorem head_append (h : Tight t) (b : Text) :
    ∀ c, (t ++ b).head? = some c → isBlank c = false := by
  intro c hc
  obtain ⟨d, hHead, hd⟩ := h.head
  rw [List.head?_append, hHead] at hc
  exact Option.some.inj hc ▸ hd

theorem trimStart_append (h : Tight t) (b : Text) : trimStart (t ++ b) = t ++ b :=
  trimStart_eq_self (h.head_append b)

theorem trimEnd_append (h : Tight t) (a : Text) : trimEnd (a ++ t) = a ++ t := by
  obtain ⟨c, hLast, hc⟩ := h.last
  apply trimEnd_eq_self
  intro d hd
  rw [List.getLast?_append, hLast] at hd
  exact Option.some.inj hd ▸ hc

theorem trimEnd_eq (h : Tight t) : trimEnd t = t := by
  simpa using h.trimEnd_append []

theorem not_isAllBlank (h : Tight t) : isAllBlank t = false := by
  obtain ⟨c, hHead, hc⟩ := h.head
  cases t with
  | nil => cases hHead
  | cons d t =>
      obtain rfl : d = c := Option.some.inj hHead
      simp [hc]

/-- Between tight texts anything may stand. -/
theorem append {a b : Text} (ha : Tight a) (hb : Tight b) (middle : Text) :
    Tight (a ++ middle ++ b) := by
  obtain ⟨c, hHead, hc⟩ := ha.head
  obtain ⟨d, hLast, hd⟩ := hb.last
  refine ⟨⟨c, ?_, hc⟩, ⟨d, ?_, hd⟩⟩
  · rw [List.append_assoc, List.head?_append, hHead, Option.some_or]
  · rw [List.getLast?_append, hLast, Option.some_or]

/-- A text without blanks is tight, unless it is empty. -/
theorem of_hasBlank (hne : t ≠ []) (h : hasBlank t = false) : Tight t := by
  rw [hasBlank_eq_false_iff] at h
  exact ⟨⟨t.head hne, List.head?_eq_some_head hne, h _ (List.head_mem hne)⟩,
    ⟨t.getLast hne, List.getLast?_eq_some_getLast hne, h _ (List.getLast_mem hne)⟩⟩

end Tight

theorem trimEnd_append_of_not_blank (a : Text) {b : Text} (h : isAllBlank b = false) :
    trimEnd (a ++ b) = a ++ trimEnd b := by
  obtain ⟨trail, hTrail, hEq⟩ := exists_trimEnd b
  have hne : trimEnd b ≠ [] := fun hNil => by
    rw [isAllBlank_of_trimEnd_eq_nil hNil] at h
    cases h
  conv_lhs => rw [hEq, ← List.append_assoc, trimEnd_append_of_blank _ hTrail]
  apply trimEnd_eq_self
  intro c hc
  rw [List.getLast?_append, List.getLast?_eq_some_getLast hne] at hc
  exact last_trimEnd (t := b) (by rw [List.getLast?_eq_some_getLast hne]; exact hc)

theorem trimEnd_cons {c : Char} (hc : isBlank c = false) (t : Text) :
    trimEnd (c :: t) = c :: trimEnd t := by
  cases h : isAllBlank t with
  | true =>
      have hSingle : Tight [c] := .of_hasBlank (by simp) (by simp [hc])
      rw [trimEnd_of_blank h, ← List.singleton_append, trimEnd_append_of_blank _ h,
        hSingle.trimEnd_eq]
  | false => exact trimEnd_append_of_not_blank [c] h

/-- Every text that is not blank has a tight part between blanks. -/
theorem exists_tight {t : Text} (h : isAllBlank t = false) :
    ∃ lead core trail : Text, isAllBlank lead ∧ Tight core ∧ isAllBlank trail ∧
      t = lead ++ core ++ trail := by
  obtain ⟨lead, hLead, hStart⟩ := exists_trimStart t
  obtain ⟨trail, hTrail, hEnd⟩ := exists_trimEnd (trimStart t)
  have hne : trimEnd (trimStart t) ≠ [] := by
    intro hNil
    rw [hNil, List.nil_append] at hEnd
    rw [hStart, hEnd, isAllBlank_append, hLead, hTrail] at h
    cases h
  refine ⟨lead, trimEnd (trimStart t), trail, hLead, ⟨?_, ?_⟩, hTrail, ?_⟩
  · have hHead := List.head?_eq_some_head hne
    refine ⟨_, hHead, head_trimStart (t := t) ?_⟩
    rw [← hHead, hEnd, List.head?_append_of_ne_nil _ hne, ← hEnd]
  · have hLast := List.getLast?_eq_some_getLast hne
    exact ⟨_, hLast, last_trimEnd hLast⟩
  · rw [List.append_assoc, ← hEnd, ← hStart]

theorem trim_parts {lead core trail : Text} (hLead : isAllBlank lead) (hCore : Tight core)
    (hTrail : isAllBlank trail) : trim (lead ++ core ++ trail) = core := by
  rw [trim, List.append_assoc, trimStart_append_of_blank hLead, hCore.trimStart_append,
    trimEnd_append_of_blank _ hTrail, hCore.trimEnd_eq]

theorem Tight.trim_eq {t : Text} (h : Tight t) : trim t = t := by
  rw [trim, ← List.append_nil t, h.trimStart_append, List.append_nil, h.trimEnd_eq]

theorem trim_of_blank {t : Text} (h : isAllBlank t) : trim t = [] := by
  rw [trim, trimStart_of_blank h]
  rfl

theorem trim_eq_nil_iff {t : Text} : trim t = [] ↔ isAllBlank t = true := by
  refine ⟨fun h => ?_, trim_of_blank⟩
  obtain ⟨lead, hLead, hText⟩ := exists_trimStart t
  rw [hText, isAllBlank_append, hLead, isAllBlank_of_trimEnd_eq_nil h, Bool.and_self]

theorem trim_append_of_blank (t : Text) {blanks : Text} (h : isAllBlank blanks) :
    trim (t ++ blanks) = trim t := by
  cases hBlank : isAllBlank t with
  | true => rw [trim_of_blank hBlank, trim_of_blank (by simp [hBlank, h])]
  | false =>
      obtain ⟨lead, core, trail, hLead, hCore, hTrail, rfl⟩ := exists_tight hBlank
      rw [trim_parts hLead hCore hTrail, List.append_assoc (lead ++ core),
        trim_parts hLead hCore (by simp [hTrail, h])]

/-- The span of the tight part, where a span covers it with the blanks around it. -/
theorem trimSpan_parts {t a lead core trail c : Text} (hLead : isAllBlank lead)
    (hCore : Tight core) (hTrail : isAllBlank trail) {n m : Nat}
    (h : t = a ++ (lead ++ core ++ trail) ++ c) (hn : n = size a)
    (hm : m = size a + size (lead ++ core ++ trail)) :
    trimSpan t ⟨n, m⟩ = ⟨size a + size lead, size a + size lead + size core⟩ := by
  subst hn hm
  have hSlice : slice t ⟨size a, size a + size (lead ++ core ++ trail)⟩ = lead ++ core ++ trail :=
    slice_of_eq h rfl rfl
  have hStart : trimStart (lead ++ core ++ trail) = core ++ trail := by
    rw [List.append_assoc, trimStart_append_of_blank hLead, hCore.trimStart_append]
  have hEnd : trimEnd (lead ++ core ++ trail) = lead ++ core := by
    rw [trimEnd_append_of_blank _ hTrail, hCore.trimEnd_append]
  rw [trimSpan, hSlice, hStart, hEnd]
  simp only [size_append, Span.mk.injEq]
  omega

/-- A span of blanks shrinks to nothing. -/
theorem trimSpan_of_blank {t a b c : Text} (hBlank : isAllBlank b) {n m : Nat}
    (h : t = a ++ b ++ c) (hn : n = size a) (hm : m = size a + size b) :
    (trimSpan t ⟨n, m⟩).stop ≤ (trimSpan t ⟨n, m⟩).start := by
  have hSlice : slice t ⟨n, m⟩ = b := slice_of_eq h hn hm
  simp [trimSpan, hSlice, trimStart_of_blank hBlank, trimEnd_of_blank hBlank]

theorem not_mem_of_blank {t : Text} (h : t.isAllBlank) {c : Char} (hc : isBlank c = false) :
    c ∉ t := by
  intro hMem
  rw [Text.isAllBlank_iff.mp h c hMem] at hc
  cases hc

theorem takeWhile_of_first {a b : Text} {c : Char} (h : c ∉ a) :
    (a ++ c :: b).takeWhile (· != c) = a := by
  rw [List.takeWhile_append_of_pos, List.takeWhile_cons_of_neg (by simp), List.append_nil]
  intro d hd
  rw [bne_iff_ne]
  rintro rfl
  exact h hd

theorem takeWhile_of_not_mem {t : Text} {c : Char} (h : c ∉ t) : t.takeWhile (· != c) = t := by
  apply List.takeWhile_eq_self_iff.mpr
  intro d hd
  rw [bne_iff_ne]
  rintro rfl
  exact h hd

end ErDiagram.Text
