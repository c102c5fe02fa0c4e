import ErDiagram.Proofs.Gap
import ErDiagram.Proofs.Text.Span
import Mathlib.Data.List.Pairwise

/-!
How tokens and gaps make up a line. A layout names every gap and every token of a text, and the
tokens of a text are those of its layout; each text has one.
-/

namespace ErDiagram

namespace Token

/-- Whether double quotes are open behind a text. -/
def quotedAfter (quoted : Bool) : Text → Bool
  | [] => quoted
  | c :: rest => quotedAfter (quoted != (c == '"')) rest

/-- Whether no separating character of a text stands outside of double quotes. -/
def isSolid (quoted : Bool) : Text → Bool
  | [] => true
  | c :: rest => (quoted || !isGap c) && isSolid (quoted != (c == '"')) rest

@[simp] theorem quotedAfter_append (quoted : Bool) (a b : Text) :
    quotedAfter quoted (a ++ b) = quotedAfter (quotedAfter quoted a) b := by
  induction a generalizing quoted with
  | nil => rfl
  | cons c a ih => exact ih _

theorem isSolid_append (quoted : Bool) (a b : Text) :
    isSolid quoted (a ++ b) = (isSolid quoted a && isSolid (quotedAfter quoted a) b) := by
  induction a generalizing quoted with
  | nil => rfl
  | cons c a ih => rw [List.cons_append, isSolid, ih, isSolid, quotedAfter, Bool.and_assoc]

theorem quotedAfter_of_not_mem {t : Text} (h : '"' ∉ t) (quoted : Bool) :
    quotedAfter quoted t = quoted := by
  induction t generalizing quoted with
  | nil => rfl
  | cons c t ih =>
      rw [List.mem_cons, not_or] at h
      have hOther : (c == '"') = false := beq_eq_false_iff_ne.mpr (Ne.symm h.1)
      rw [quotedAfter, hOther, Bool.bne_false, ih h.2]

theorem isSolid_of_no_gap {t : Text} (h : ∀ c ∈ t, isGap c = false) (quoted : Bool) :
    isSolid quoted t = true := by
  induction t generalizing quoted with
  | nil => rfl
  | cons c t ih =>
      rw [List.forall_mem_cons] at h
      rw [isSolid, h.1, ih h.2, Bool.not_false, Bool.or_true, Bool.and_true]

/-- Inside of quotes nothing separates. -/
theorem isSolid_quoted {t : Text} (h : '"' ∉ t) : isSolid true t = true := by
  induction t with
  | nil => rfl
  | cons c t ih =>
      rw [List.mem_cons, not_or] at h
      have hOther : (c == '"') = false := beq_eq_false_iff_ne.mpr (Ne.symm h.1)
      rw [isSolid, hOther, Bool.bne_false, ih h.2]
      rfl

theorem isSolid_of_hasBlank {word : Text} (h : word.hasBlank = false) :
    isSolid false word = true :=
  isSolid_of_no_gap (fun c hc => isGap_of_not_blank (Text.hasBlank_eq_false_iff.mp h c hc)) false

/-- What may stand behind a token: nothing, or a gap, and then the token has closed its quotes. -/
def Border (quoted : Bool) (text rest : Text) : Prop :=
  rest = [] ∨ (quotedAfter quoted text = false ∧ ∃ c, rest.head? = some c ∧ isGap c = true)

theorem Border.isGap_head {quoted : Bool} {text rest : Text} (h : Border quoted text rest) {c : Char}
    (hc : rest.head? = some c) : isGap c = true := by
  rcases h with rfl | ⟨-, d, hd, hGap⟩
  · cases hc
  · exact Option.some.inj (hd.symm.trans hc) ▸ hGap

/-- The tokens of a text whose first character has the position `start`, with the gaps around
them. -/
inductive Layout : Nat → Text → List Token → Prop where
  | gap {start : Nat} {gap : Text} (hGap : isAllGap gap = true) : Layout start gap []
  | token {start : Nat} {gap text rest : Text} {more : List Token}
      (hGap : isAllGap gap = true) (hText : text ≠ []) (hSolid : isSolid false text = true)
      (hBorder : Border false text rest)
      (tail : Layout (start + gap.size + text.size) rest more) :
      Layout start (gap ++ text ++ rest)
        (⟨text, ⟨start + gap.size, start + gap.size + text.size⟩⟩ :: more)

theorem start_le_of_mem_scan {quoted : Bool} {start : Nat} {t : Text} {token : Token}
    (h : token ∈ scan quoted start t) : start ≤ token.span.start := by
  induction t generalizing quoted start token with
  | nil => cases h
  | cons c t ih =>
      have hLater {quoted : Bool} {other : Token}
          (hOther : other ∈ scan quoted (start + c.utf8Size) t) : start ≤ other.span.start := by
        have := ih hOther
        omega
      rw [scan] at h
      split at h
      next => exact hLater h
      next =>
        split at h
        next =>
          obtain rfl := List.mem_singleton.mp h
          exact Nat.le_refl start
        next other more hScan =>
          split at h
          all_goals rw [List.mem_cons] at h; rcases h with rfl | hMore
          · exact Nat.le_refl start
          · exact hLater (hScan ▸ List.mem_cons_of_mem _ hMore)
          · exact Nat.le_refl start
          · exact hLater (hScan ▸ hMore)

theorem scan_gap_append {gap : Text} (hGap : isAllGap gap = true) (start : Nat) (rest : Text) :
    scan false start (gap ++ rest) = scan false (start + gap.size) rest := by
  induction gap generalizing start with
  | nil => rfl
  | cons c gap ih =>
      rw [isAllGap_cons, Bool.and_eq_true] at hGap
      rw [List.cons_append, scan, if_pos (by simp [hGap.1]), ih hGap.2, Text.size_cons,
        Nat.add_assoc]

/-- Behind a border a token starts later than where it could be joined. -/
theorem scan_border {text rest : Text} {quoted : Bool} (h : Border quoted text rest) (start : Nat) :
    scan (quotedAfter quoted text) start rest = scan false start rest ∧
      ∀ token ∈ scan false start rest, token.span.start ≠ start := by
  rcases h with rfl | ⟨hClosed, c, hHead, hc⟩
  · exact ⟨rfl, nofun⟩
  · refine ⟨by rw [hClosed], fun token hToken => ?_⟩
    cases rest with
    | nil => cases hHead
    | cons d rest =>
        obtain rfl : d = c := Option.some.inj hHead
        rw [scan, if_pos (by simp [hc])] at hToken
        have := start_le_of_mem_scan hToken
        have := Char.utf8Size_pos d
        omega

/-- A solid text in front of a border is one token. -/
theorem scan_solid_append {quoted : Bool} {text rest : Text} (hText : text ≠ [])
    (hSolid : isSolid quoted text = true) (hBorder : Border quoted text rest) (start : Nat) :
    scan quoted start (text ++ rest) =
      ⟨text, ⟨start, start + text.size⟩⟩ :: scan false (start + text.size) rest := by
  induction text generalizing quoted start with
  | nil => exact absurd rfl hText
  | cons c text ih =>
      rw [isSolid, Bool.and_eq_true] at hSolid
      have hHere : (!quoted && isGap c) = false := by
        have := hSolid.1
        cases quoted <;> simp_all
      rw [List.cons_append, scan, hHere]
      simp only [Bool.false_eq_true, if_false]
      cases text with
      | nil =>
          obtain ⟨hScan, hStart⟩ := scan_border hBorder (start + c.utf8Size)
          rw [List.nil_append, show scan (quoted != (c == '"')) (start + c.utf8Size) rest =
            scan false (start + c.utf8Size) rest from hScan]
          simp only [Text.size_cons, Text.size_nil, Nat.add_zero]
          split
          next hNil => rw [hNil]
          next token more hCons =>
            rw [if_neg (hStart token (by rw [hCons]; exact List.mem_cons_self)), hCons]
      | cons d text =>
          rw [ih (by simp) hSolid.2 hBorder]
          simp [Nat.add_assoc]

/-- The tokens of a text are those of its layout. -/
theorem Layout.scan_eq {start : Nat} {t : Text} {tokens : List Token}
    (h : Layout start t tokens) : scan false start t = tokens := by
  induction h with
  | @gap start gap hGap => simpa [scan] using scan_gap_append hGap start []
  | @token start gap text rest more hGap hText hSolid hBorder tail ih =>
      rw [List.append_assoc, scan_gap_append hGap, scan_solid_append hText hSolid hBorder, ih]

/-- The longest solid part in front of a text ends at a border. -/
theorem exists_solid (quoted : Bool) (t : Text) :
    ∃ text rest, t = text ++ rest ∧ isSolid quoted text = true ∧ Border quoted text rest := by
  induction t generalizing quoted with
  | nil => exact ⟨[], [], rfl, rfl, Or.inl rfl⟩
  | cons c t ih =>
      cases hHere : !quoted && isGap c with
      | true =>
          rw [Bool.and_eq_true, Bool.not_eq_true'] at hHere
          exact ⟨[], c :: t, rfl, rfl, Or.inr ⟨hHere.1, c, rfl, hHere.2⟩⟩
      | false =>
          obtain ⟨text, rest, rfl, hSolid, hBorder⟩ := ih (quoted != (c == '"'))
          refine ⟨c :: text, rest, rfl, ?_, hBorder⟩
          have hChar : (quoted || !isGap c) = true := by cases quoted <;> simp_all
          rw [isSolid, hChar, hSolid]
          rfl

/-- Every text has a layout: its first gap, its first token and the layout of the rest. -/
theorem exists_layout (start : Nat) (t : Text) : ∃ tokens, Layout start t tokens := by
  induction hn : t.length using Nat.strongRecOn generalizing start t with
  | ind n ih =>
      obtain ⟨gap, front, rfl, hGap, hFront⟩ := exists_gap t
      obtain ⟨text, rest, rfl, hSolid, hBorder⟩ := exists_solid false front
      by_cases hText : text = []
      · subst hText
        have hNil : rest = [] := by
          rcases hBorder with hNil | ⟨-, c, hc, hChar⟩
          · exact hNil
          · rw [hFront c hc] at hChar
            cases hChar
        rw [hNil, List.append_nil, List.append_nil]
        exact ⟨[], .gap hGap⟩
      · have hPos := List.length_pos_iff.mpr hText
        have hShort : rest.length < n := by
          rw [← hn]
          simp only [List.length_append]
          omega
        obtain ⟨more, hMore⟩ := ih _ hShort (start + gap.size + text.size) rest rfl
        rw [← List.append_assoc]
        exact ⟨_, .token hGap hText hSolid hBorder hMore⟩

theorem layout_iff {start : Nat} {t : Text} {tokens : List Token} :
    Layout start t tokens ↔ scan false start t = tokens := by
  refine ⟨Layout.scan_eq, fun h => ?_⟩
  obtain ⟨tokens', hLayout⟩ := exists_layout start t
  rwa [← h, hLayout.scan_eq]

theorem layout_tokenize (t : Text) : Layout 0 t (tokenize t) :=
  layout_iff.mpr rfl

/-- Every token stands at its span. -/
theorem Layout.slice_eq {start : Nat} {t : Text} {tokens : List Token}
    (h : Layout start t tokens) {front : Text} (hFront : front.size = start) {token : Token}
    (hToken : token ∈ tokens) : (front ++ t).slice token.span = token.text := by
  induction h generalizing front with
  | gap => cases hToken
  | @token start gap text rest more hGap hText hSolid hBorder tail ih =>
      rcases List.mem_cons.mp hToken with rfl | hMore
      · refine Text.slice_of_eq (a := front ++ gap) (c := rest) (by simp) ?_ ?_ <;>
          simp [hFront]
      · have hSize : Text.size (front ++ gap ++ text) = start + gap.size + text.size := by
          rw [Text.size_append, Text.size_append, hFront]
        simpa using ih hSize hMore

theorem Layout.slice_of_mem {t : Text} {tokens : List Token} (h : Layout 0 t tokens)
    {token : Token} (hToken : token ∈ tokens) : t.slice token.span = token.text := by
  rw [← h.slice_eq Text.size_nil hToken, List.nil_append]

theorem Layout.ne_nil {start : Nat} {t : Text} {token : Token} {more : List Token}
    (h : Layout start t (token :: more)) : t ≠ [] := by
  cases h with
  | token hGap hText hSolid hBorder tail => simp [hText]

theorem Layout.text_ne_nil {start : Nat} {t : Text} {tokens : List Token}
    (h : Layout start t tokens) {token : Token} (hToken : token ∈ tokens) : token.text ≠ [] := by
  induction h with
  | gap => cases hToken
  | token hGap hText hSolid hBorder tail ih =>
      rcases List.mem_cons.mp hToken with rfl | hMore
      · exact hText
      · exact ih hMore

/-- A solid text does not start with a separating character. -/
theorem isGap_head_of_isSolid {text : Text} (h : isSolid false text = true) {c : Char}
    (hc : text.head? = some c) : isGap c = false := by
  cases text with
  | nil => cases hc
  | cons d text =>
      obtain rfl : d = c := Option.some.inj hc
      rw [isSolid, Bool.and_eq_true] at h
      simpa using h.1

theorem Layout.start_le {start : Nat} {t : Text} {tokens : List Token} (h : Layout start t tokens)
    {token : Token} (hToken : token ∈ tokens) : start ≤ token.span.start :=
  start_le_of_mem_scan (h.scan_eq ▸ hToken)

/-- Tokens stand one behind the other, with something between them. -/
theorem Layout.pairwise_stop_lt {start : Nat} {t : Text} {tokens : List Token}
    (h : Layout start t tokens) : tokens.Pairwise fun a b => a.span.stop < b.span.start := by
  induction h with
  | gap hGap => exact .nil
  | token hGap hText hSolid hBorder tail ih =>
      refine .cons (fun later hLater => ?_) ih
      have hLe := tail.start_le hLater
      have hNe := (scan_border hBorder _).2 later (tail.scan_eq.symm ▸ hLater)
      exact Nat.lt_of_le_of_ne hLe (Ne.symm hNe)

theorem Layout.pairwise_before {start : Nat} {t : Text} {tokens : List Token}
    (h : Layout start t tokens) : (tokens.map Token.span).Pairwise Span.Before :=
  List.pairwise_map.mpr (h.pairwise_stop_lt.imp Nat.le_of_lt)

/-- Every token covers something of the text that the tokens are taken from. -/
theorem Layout.within {start : Nat} {t : Text} {tokens : List Token} (h : Layout start t tokens)
    {front : Text} (hFront : front.size = start) {token : Token} (hToken : token ∈ tokens) :
    token.span.Within (front ++ t) := by
  induction h generalizing front with
  | gap hGap => cases hToken
  | @token start gap text rest more hGap hText hSolid hBorder tail ih =>
      rcases List.mem_cons.mp hToken with rfl | hLater
      · exact Span.within_of_eq (a := front ++ gap) (c := rest) (by simp) hText (by simp [hFront])
          (by simp [hFront])
      · have hSize : Text.size (front ++ gap ++ text) = start + gap.size + text.size := by
          rw [Text.size_append, Text.size_append, hFront]
        simpa using ih hSize hLater

theorem Layout.within_of_mem {t : Text} {tokens : List Token} (h : Layout 0 t tokens) {token : Token}
    (hToken : token ∈ tokens) : token.span.Within t := by
  rw [← List.nil_append t]
  exact h.within Text.size_nil hToken

/-- Some consecutive tokens of a text, and what they become when the gaps between them close: one
solid text, which borders on the rest as the last of the tokens did. -/
theorem Layout.exists_run {start : Nat} {t : Text} {first : Token} {more trailing : List Token}
    (h : Layout start t (first :: more ++ trailing)) :
    ∃ gap run rest, t = gap ++ run ++ rest ∧ isAllGap gap = true ∧
      first.span.start = start + gap.size ∧
      ((first :: more).getLast (by simp)).span.stop = start + gap.size + run.size ∧
      first.text <+: run ∧ Squeezed run ((first :: more).flatMap Token.text) ∧
      isSolid false ((first :: more).flatMap Token.text) = true ∧
      Border false ((first :: more).flatMap Token.text) rest ∧
      (∃ c, run.getLast? = some c ∧ ((first :: more).flatMap Token.text).getLast? = some c) ∧
      (more ≠ [] → ((first :: more).flatMap Token.text).length < run.length) ∧
      Layout (start + gap.size + run.size) rest trailing := by
  induction more generalizing start t first with
  | nil =>
      cases h with
      | @token _ gap text rest _ hGap hText hSolid hBorder tail =>
          refine ⟨gap, text, rest, rfl, hGap, rfl, rfl, List.prefix_rfl, ?_, ?_, ?_, ?_,
            fun hMore => absurd rfl hMore, tail⟩
          · simpa using Squeezed.refl text
          · simpa using hSolid
          · simpa using hBorder
          · exact ⟨_, List.getLast?_eq_some_getLast hText,
              by simpa using List.getLast?_eq_some_getLast hText⟩
  | cons second more ih =>
      have hOrder := (List.pairwise_cons.mp h.pairwise_stop_lt).1 second List.mem_cons_self
      cases h with
      | @token _ gap text rest _ hGap hText hSolid hBorder tail =>
          have hClosed := (hBorder.resolve_left tail.ne_nil).1
          obtain ⟨gap', run, rest', rfl, hGap', hStart, hStop, ⟨run', rfl⟩, hSqueezed, hSolid',
            hBorder', ⟨c, hLast, hLast'⟩, -, hRest⟩ := ih tail
          have hGapNe : gap' ≠ [] := by
            rintro rfl
            rw [hStart] at hOrder
            exact Nat.lt_irrefl _ hOrder
          refine ⟨gap, text ++ gap' ++ (second.text ++ run'), rest', by simp, hGap, rfl, ?_, by simp,
            ?_, ?_, ?_, ?_, fun _ => ?_, ?_⟩
          · rw [List.getLast_cons (by simp), hStop]
            simp [Nat.add_assoc]
          · rw [List.flatMap_cons]
            simpa using (Squeezed.refl text).append ((Squeezed.of_gap hGap').append hSqueezed)
          · rw [List.flatMap_cons, isSolid_append, hSolid, hClosed, hSolid']
            rfl
          · rw [List.flatMap_cons]
            apply hBorder'.imp id
            intro hOpen
            rwa [quotedAfter_append, hClosed]
          · refine ⟨c, by rw [List.getLast?_append, hLast, Option.some_or], ?_⟩
            rw [List.flatMap_cons, List.getLast?_append, hLast', Option.some_or]
          · have hRun := hSqueezed.length_le
            have := List.length_pos_iff.mpr hGapNe
            simp only [List.flatMap_cons, List.length_append] at hRun ⊢
            omega
          · simpa [Nat.add_assoc] using hRest

/-- A solid text is a single token. -/
theorem length_tokenize_of_isSolid {t : Text} (hne : t ≠ []) (h : isSolid false t = true) :
    (tokenize t).length = 1 := by
  have hScan := scan_solid_append hne h (Or.inl rfl) 0
  rw [List.append_nil] at hScan
  rw [tokenize, hScan]
  rfl

/-- A tight text has no gaps around its tokens, so it is solid where it has a single one. -/
theorem isSolid_of_length_tokenize {t : Text} (hTight : Text.Tight t)
    (h : (tokenize t).length = 1) : isSolid false t = true := by
  obtain ⟨token, hToken⟩ := List.length_eq_one_iff.mp h
  have hLayout : Layout 0 t [token] := hToken ▸ layout_tokenize t
  cases hLayout with
  | @token _ gap text rest _ hGap hText hSolid hBorder tail =>
      cases tail with
      | gap hRest =>
          have hHead := hTight.head_append []
          rw [List.append_nil, List.append_assoc] at hHead
          obtain rfl := eq_nil_of_gap_append hGap hHead
          have hLast := Text.trimEnd_eq_self_iff.mp hTight.trimEnd_eq
          obtain rfl := eq_nil_of_append_gap hRest hLast
          simpa using hSolid

/-- Without quotes every separating character separates. -/
theorem not_isGap_of_isSolid {t : Text} (hQuote : '"' ∉ t) (h : isSolid false t = true) :
    ∀ c ∈ t, isGap c = false := by
  induction t with
  | nil => exact nofun
  | cons c t ih =>
      rw [List.mem_cons, not_or] at hQuote
      have hOther : (c == '"') = false := beq_eq_false_iff_ne.mpr (Ne.symm hQuote.1)
      rw [isSolid, hOther, Bool.bne_false, Bool.and_eq_true] at h
      exact List.forall_mem_cons.mpr ⟨by simpa using h.1, ih hQuote.2 h.2⟩

end Token

end ErDiagram
