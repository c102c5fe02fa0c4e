import ErDiagram.Proofs.Token

/-!
The tokens of a line as a grammar with ordered choice and greedy repetition. Nothing is tried again once a
part has been read, so it has to be shown that no part reads too much: the grammar reads every line to its
end, and its tokens are those of the scan.
-/

namespace ErDiagram

/-- What a parser still has to read, and the position where that starts. -/
structure Parser.Input where
  position : Nat
  rest : Text

/-- A parser reads a leading part of its input and gives a value and what it has left, or it fails. -/
abbrev Parser (α : Type) := Parser.Input → Option (α × Parser.Input)

namespace Parser

variable {α β : Type}

def char (p : Char → Bool) : Parser Char
  | ⟨_, []⟩ => none
  | ⟨position, c :: rest⟩ => if p c then some (c, ⟨position + c.utf8Size, rest⟩) else none

def succeed (a : α) : Parser α := fun input => some (a, input)

def finish : Parser Unit
  | ⟨position, []⟩ => some ((), ⟨position, []⟩)
  | _ => none

/-- One parser behind the other. -/
def pair (first : Parser α) (second : Parser β) : Parser (α × β) := fun input => do
  let (a, next) ← first input
  let (b, last) ← second next
  return ((a, b), last)

def map (f : α → β) (p : Parser α) : Parser β := fun input =>
  (p input).map fun (a, next) => (f a, next)

/-- The second parser is tried only where the first one fails. -/
def orElse (first second : Parser α) : Parser α := fun input =>
  (first input).or (second input)

def orNot (p : Parser α) : Parser (Option α) :=
  orElse (map some p) (succeed none)

/-- As many items as can be read. An item that reads nothing ends the repetition. -/
def many (item : Parser α) (input : Input) : Option (List α × Input) :=
  match item input with
  | none => some ([], input)
  | some (a, next) =>
    if next.rest.length < input.rest.length then
      (many item next).map fun (more, last) => (a :: more, last)
    else some ([], input)
termination_by input.rest.length

def many1 (item : Parser α) : Parser (List α) :=
  map (fun (a, more) => a :: more) (pair item (many item))

/-- Items with a separator between every two of them. One more separator may stand behind the last. -/
def separatedBy (item : Parser α) (separator : Parser β) : Parser (List α) :=
  let items := pair item (many (map Prod.snd (pair separator item)))
  orElse (map (fun ((a, more), _) => a :: more) (pair items (orNot separator))) (succeed [])

def paddedBy (p : Parser α) (padding : Parser β) : Parser α :=
  map (fun (_, a, _) => a) (pair padding (pair p padding))

/-- What a parser reads, as a token. -/
def spanned (p : Parser α) : Parser Token := fun input =>
  (p input).map fun (_, next) =>
    (⟨input.rest.takeBytes (next.position - input.position), ⟨input.position, next.position⟩⟩, next)

/-- A part in double quotes. The closing quote may be missing. -/
def quoted : Parser Unit :=
  map (fun _ => ())
    (pair (char (· == '"')) (pair (many (char (· != '"'))) (orNot (char (· == '"')))))

def bare : Parser Unit :=
  map (fun _ => ()) (char fun c => !isGap c && c != '"')

def token : Parser Token :=
  spanned (many1 (orElse quoted bare))

/-- The tokens of a whole line. -/
def line : Parser (List Token) :=
  map Prod.fst
    (pair (paddedBy (separatedBy token (many1 (char isGap))) (many (char isGap))) finish)

section

variable {input next last : Input} {a : α} {b : β}

theorem pair_of_some {p : Parser α} {q : Parser β} (h : p input = some (a, next))
    (h' : q next = some (b, last)) : pair p q input = some ((a, b), last) := by
  simp [pair, h, h']

theorem pair_of_none {p : Parser α} {q : Parser β} (h : p input = none) : pair p q input = none := by
  simp [pair, h]

theorem map_of_some {f : α → β} {p : Parser α} (h : p input = some (a, next)) :
    map f p input = some (f a, next) := by
  rw [map, h, Option.map_some]

theorem map_of_none {f : α → β} {p : Parser α} (h : p input = none) : map f p input = none := by
  rw [map, h, Option.map_none]

theorem orElse_of_some {p q : Parser α} (h : p input = some (a, next)) :
    orElse p q input = some (a, next) := by
  rw [orElse, h, Option.some_or]

theorem orElse_of_none {p q : Parser α} (h : p input = none) : orElse p q input = q input := by
  rw [orElse, h, Option.none_or]

theorem orNot_of_some {p : Parser α} (h : p input = some (a, next)) :
    orNot p input = some (some a, next) :=
  orElse_of_some (map_of_some h)

theorem orNot_of_none {p : Parser α} (h : p input = none) : orNot p input = some (none, input) :=
  orElse_of_none (map_of_none h)

theorem many_of_none {p : Parser α} (h : p input = none) : many p input = some ([], input) := by
  rw [many, h]

theorem many_of_some {p : Parser α} {more : List α} (h : p input = some (a, next))
    (hShort : next.rest.length < input.rest.length) (hMore : many p next = some (more, last)) :
    many p input = some (a :: more, last) := by
  rw [many, h]
  simp only [if_pos hShort, hMore, Option.map_some]

theorem many1_of_some {p : Parser α} {more : List α} (h : p input = some (a, next))
    (hMore : many p next = some (more, last)) : many1 p input = some (a :: more, last) :=
  map_of_some (pair_of_some h hMore)

theorem many1_of_none {p : Parser α} (h : p input = none) : many1 p input = none :=
  map_of_none (pair_of_none h)

end

section

variable {p : Char → Bool} {run rest : Text}

theorem char_of_pos {c : Char} (h : p c = true) (n : Nat) (rest : Text) :
    char p ⟨n, c :: rest⟩ = some (c, ⟨n + c.utf8Size, rest⟩) :=
  if_pos h

theorem char_of_head (h : ∀ c, rest.head? = some c → p c = false) (n : Nat) :
    char p ⟨n, rest⟩ = none := by
  cases rest with
  | nil => rfl
  | cons c rest => exact if_neg (by simp [h c rfl])

theorem many_char (hRun : ∀ c ∈ run, p c = true) (hRest : ∀ c, rest.head? = some c → p c = false)
    (n : Nat) : many (char p) ⟨n, run ++ rest⟩ = some (run, ⟨n + run.size, rest⟩) := by
  induction run generalizing n with
  | nil => exact many_of_none (char_of_head hRest n)
  | cons c run ih =>
      rw [List.forall_mem_cons] at hRun
      rw [Text.size_cons, ← Nat.add_assoc]
      exact many_of_some (char_of_pos hRun.1 n _) (Nat.lt_succ_self _) (ih hRun.2 _)

theorem many1_char (hne : run ≠ []) (hRun : ∀ c ∈ run, p c = true)
    (hRest : ∀ c, rest.head? = some c → p c = false) (n : Nat) :
    many1 (char p) ⟨n, run ++ rest⟩ = some (run, ⟨n + run.size, rest⟩) := by
  cases run with
  | nil => exact absurd rfl hne
  | cons c run =>
      rw [List.forall_mem_cons] at hRun
      rw [Text.size_cons, ← Nat.add_assoc]
      exact many1_of_some (char_of_pos hRun.1 n _) (many_char hRun.2 hRest _)

/-- A run of characters may reach to the end of the input. -/
theorem many_char_all (hRun : ∀ c ∈ run, p c = true) (n : Nat) :
    many (char p) ⟨n, run⟩ = some (run, ⟨n + run.size, []⟩) := by
  have hRead : many (char p) ⟨n, run ++ []⟩ = some (run, ⟨n + run.size, []⟩) :=
    many_char hRun (by simp) n
  rwa [List.append_nil] at hRead

theorem many1_char_all (hne : run ≠ []) (hRun : ∀ c ∈ run, p c = true) (n : Nat) :
    many1 (char p) ⟨n, run⟩ = some (run, ⟨n + run.size, []⟩) := by
  have hRead : many1 (char p) ⟨n, run ++ []⟩ = some (run, ⟨n + run.size, []⟩) :=
    many1_char hne hRun (by simp) n
  rwa [List.append_nil] at hRead

end

open Token

variable {text rest : Text}

theorem isGap_head_append (hText : text ≠ []) (hSolid : isSolid false text = true) {c : Char}
    (hc : (text ++ rest).head? = some c) : isGap c = false := by
  rw [List.head?_append_of_ne_nil _ hText] at hc
  exact isGap_head_of_isSolid hSolid hc

/-- What a token cannot start with: nothing, or a gap. -/
theorem piece_of_gap (h : ∀ c, rest.head? = some c → isGap c = true) (n : Nat) :
    orElse quoted bare ⟨n, rest⟩ = none := by
  have hQuoted : quoted ⟨n, rest⟩ = none := by
    refine map_of_none (pair_of_none (char_of_head (fun c hc => beq_eq_false_iff_ne.mpr ?_) n))
    rintro rfl
    cases h _ hc
  rw [orElse_of_none hQuoted]
  exact map_of_none (char_of_head (fun c hc => by rw [h c hc]; rfl) n)

theorem no_quote_of_not_mem {inner : Text} (h : '"' ∉ inner) : ∀ c ∈ inner, (c != '"') = true :=
  fun _ hc => bne_iff_ne.mpr (ne_of_mem_of_not_mem hc h)

/-- A quoted part is read up to the quote that closes it. -/
theorem quoted_of_closed {inner : Text} (h : '"' ∉ inner) (n : Nat) (rest : Text) :
    quoted ⟨n, '"' :: (inner ++ '"' :: rest)⟩ =
      some ((), ⟨n + Text.size ('"' :: (inner ++ ['"'])), rest⟩) := by
  have hClose : ∀ c, ('"' :: rest).head? = some c → (c != '"') = false := by simp
  have hRead : quoted ⟨n, '"' :: (inner ++ '"' :: rest)⟩ =
      some ((), ⟨n + Char.utf8Size '"' + inner.size + Char.utf8Size '"', rest⟩) :=
    map_of_some (pair_of_some (char_of_pos rfl n _)
      (pair_of_some (many_char (no_quote_of_not_mem h) hClose _) (orNot_of_some (char_of_pos rfl _ rest))))
  rw [hRead]
  simp [Nat.add_assoc]

/-- Without such a quote it is read up to the end. -/
theorem quoted_of_open {inner : Text} (h : '"' ∉ inner) (n : Nat) :
    quoted ⟨n, '"' :: inner⟩ = some ((), ⟨n + Text.size ('"' :: inner), []⟩) := by
  have hRead : quoted ⟨n, '"' :: inner⟩ =
      some ((), ⟨n + Char.utf8Size '"' + inner.size, []⟩) :=
    map_of_some (pair_of_some (char_of_pos rfl n _)
      (pair_of_some (many_char_all (no_quote_of_not_mem h) _) (orNot_of_none rfl)))
  rw [hRead]
  simp [Nat.add_assoc]

/-- A piece of a solid text leaves a solid text, with the border behind it. -/
theorem exists_piece (hText : text ≠ []) (hSolid : isSolid false text = true)
    (hBorder : Border false text rest) (n : Nat) :
    ∃ front text', text = front ++ text' ∧ front ≠ [] ∧ isSolid false text' = true ∧
      Border false text' rest ∧
      orElse quoted bare ⟨n, text ++ rest⟩ = some ((), ⟨n + front.size, text' ++ rest⟩) := by
  cases text with
  | nil => exact absurd rfl hText
  | cons c text =>
      rw [isSolid, Bool.false_or, Bool.and_eq_true, Bool.not_eq_true'] at hSolid
      obtain ⟨hHead, hTail⟩ := hSolid
      by_cases hc : c = '"'
      · subst hc
        by_cases hQuote : '"' ∈ text
        · obtain ⟨inner, text', rfl, hInner⟩ := List.eq_append_cons_of_mem hQuote
          have hInside : quotedAfter true inner = true := quotedAfter_of_not_mem hInner true
          refine ⟨'"' :: (inner ++ ['"']), text', by simp, by simp, ?_, ?_, ?_⟩
          · change isSolid true (inner ++ '"' :: text') = true at hTail
            rw [isSolid_append, hInside, Bool.and_eq_true] at hTail
            exact hTail.2
          · refine hBorder.imp id fun h => ⟨?_, h.2⟩
            have hClosed : quotedAfter true (inner ++ '"' :: text') = false := h.1
            rw [quotedAfter_append, hInside] at hClosed
            exact hClosed
          · rw [List.cons_append, List.append_assoc, List.cons_append]
            exact orElse_of_some (quoted_of_closed hInner n (text' ++ rest))
        · -- The quotes are still open behind the text, so nothing can stand there.
          have hOpen : quotedAfter false ('"' :: text) = true := quotedAfter_of_not_mem hQuote true
          have hRest : rest = [] := hBorder.resolve_right fun h => by
            rw [hOpen] at h
            cases h.1
          subst hRest
          refine ⟨'"' :: text, [], by simp, by simp, rfl, Or.inl rfl, ?_⟩
          rw [List.append_nil]
          exact orElse_of_some (quoted_of_open hQuote n)
      · have hOther : (c == '"') = false := beq_eq_false_iff_ne.mpr hc
        rw [hOther] at hTail
        refine ⟨[c], text, rfl, by simp, hTail, ?_, ?_⟩
        · refine hBorder.imp id fun h => ⟨?_, h.2⟩
          have hClosed := h.1
          rw [quotedAfter, hOther] at hClosed
          exact hClosed
        · have hQuoted : quoted ⟨n, c :: (text ++ rest)⟩ = none :=
            map_of_none (pair_of_none (char_of_head (fun d hd => Option.some.inj hd ▸ hOther) n))
          rw [List.cons_append, orElse_of_none hQuoted]
          exact map_of_some (char_of_pos (by simp [hHead, hc]) n _)

theorem many_piece (hSolid : isSolid false text = true) (hBorder : Border false text rest) (n : Nat) :
    ∃ pieces, many (orElse quoted bare) ⟨n, text ++ rest⟩ =
      some (pieces, ⟨n + text.size, rest⟩) := by
  induction hLength : text.length using Nat.strongRecOn generalizing n text with
  | ind length ih =>
      by_cases hText : text = []
      · subst hText
        exact ⟨[], many_of_none (piece_of_gap (fun _ => hBorder.isGap_head) n)⟩
      · obtain ⟨front, text', rfl, hFront, hSolid', hBorder', hRead⟩ :=
          exists_piece hText hSolid hBorder n
        have hPos := List.length_pos_iff.mpr hFront
        rw [List.length_append] at hLength
        obtain ⟨pieces, hMore⟩ := ih _ (by omega) hSolid' hBorder' (n + front.size) rfl
        rw [Text.size_append, ← Nat.add_assoc]
        refine ⟨() :: pieces, many_of_some hRead ?_ hMore⟩
        simp only [List.length_append]
        omega

/-- A token is read as a whole, and nothing behind it. -/
theorem token_of_solid (hText : text ≠ []) (hSolid : isSolid false text = true)
    (hBorder : Border false text rest) (n : Nat) :
    token ⟨n, text ++ rest⟩ = some (⟨text, ⟨n, n + text.size⟩⟩, ⟨n + text.size, rest⟩) := by
  obtain ⟨front, text', rfl, hFront, hSolid', hBorder', hRead⟩ := exists_piece hText hSolid hBorder n
  obtain ⟨pieces, hMore⟩ := many_piece hSolid' hBorder' (n + front.size)
  rw [token, spanned, many1_of_some hRead hMore]
  simp [Text.takeBytes_of_eq (List.append_assoc ..).symm, Nat.add_assoc]

theorem token_of_gap (h : ∀ c, rest.head? = some c → isGap c = true) (n : Nat) :
    token ⟨n, rest⟩ = none := by
  rw [token, spanned, many1_of_none (piece_of_gap h n)]
  rfl

/-- Behind a token the other tokens are read, each with the gap in front of it. What is left is the gap
behind the last one. -/
theorem many_tokens {n : Nat} {tokens : List Token} (h : Layout n rest tokens)
    (hHead : ∀ c, rest.head? = some c → isGap c = true) :
    ∃ gap last, isAllGap gap = true ∧ last + gap.size = n + rest.size ∧
      many (map Prod.snd (pair (many1 (char isGap)) token)) ⟨n, rest⟩ =
        some (tokens, ⟨last, gap⟩) := by
  induction h with
  | @gap n gap hGap =>
      refine ⟨gap, n, hGap, rfl, many_of_none (map_of_none ?_)⟩
      by_cases hNil : gap = []
      · subst hNil
        exact pair_of_none (many1_of_none rfl)
      · rw [pair, many1_char_all hNil (List.all_eq_true.mp hGap)]
        rfl
  | @token n gap text rest more hGap hText hSolid hBorder tail ih =>
      have hSolidHead : ∀ c, (text ++ rest).head? = some c → isGap c = false :=
        fun _ => isGap_head_append hText hSolid
      have hne : gap ≠ [] := by
        rintro rfl
        have hFirst := List.head?_eq_some_head (List.append_ne_nil_of_left_ne_nil hText rest)
        have hNot := hSolidHead _ hFirst
        rw [hHead _ (by simpa using hFirst)] at hNot
        cases hNot
      obtain ⟨trail, last, hTrail, hLast, hMore⟩ := ih fun _ => hBorder.isGap_head
      have hRead := pair_of_some (many1_char hne (List.all_eq_true.mp hGap) hSolidHead n)
        (token_of_solid hText hSolid hBorder _)
      rw [← List.append_assoc] at hRead
      refine ⟨trail, last, hTrail, ?_, many_of_some (map_of_some hRead) ?_ hMore⟩
      · rw [hLast]
        simp [Nat.add_assoc]
      · have := List.length_pos_iff.mpr hText
        simp only [List.length_append]
        omega

theorem orNot_gap {gap : Text} (hGap : isAllGap gap = true) (n : Nat) :
    ∃ separator, orNot (many1 (char isGap)) ⟨n, gap⟩ = some (separator, ⟨n + gap.size, []⟩) := by
  by_cases hNil : gap = []
  · subst hNil
    exact ⟨none, orNot_of_none (many1_of_none rfl)⟩
  · exact ⟨some gap, orNot_of_some (many1_char_all hNil (List.all_eq_true.mp hGap) n)⟩

theorem line_of_separatedBy {gap : Text} {tokens : List Token} {n last : Nat}
    (hGap : isAllGap gap = true) (hHead : ∀ c, rest.head? = some c → isGap c = false)
    (hRead : separatedBy token (many1 (char isGap)) ⟨n + gap.size, rest⟩ =
      some (tokens, ⟨last, []⟩)) :
    line ⟨n, gap ++ rest⟩ = some (tokens, ⟨last, []⟩) := by
  have hEnd : many (char isGap) ⟨last, []⟩ = some ([], ⟨last, []⟩) := many_of_none rfl
  exact map_of_some (pair_of_some (map_of_some (pair_of_some
    (many_char (List.all_eq_true.mp hGap) hHead n) (pair_of_some hRead hEnd))) rfl)

/-- The grammar reads every line to its end, and gives the tokens of the line. -/
theorem line_eq (t : Text) : line ⟨0, t⟩ = some (tokenize t, ⟨t.size, []⟩) := by
  have hLayout := layout_tokenize t
  generalize tokenize t = tokens at hLayout ⊢
  cases hLayout with
  | gap hGap =>
      have hNone : token ⟨0 + t.size, []⟩ = none := token_of_gap (by simp) _
      have hRead : line ⟨0, t ++ []⟩ = some ([], ⟨0 + t.size, []⟩) :=
        line_of_separatedBy hGap (by simp)
          (orElse_of_none (map_of_none (pair_of_none (pair_of_none hNone))))
      rwa [List.append_nil, Nat.zero_add] at hRead
  | @token _ gap text rest more hGap hText hSolid hBorder tail =>
      obtain ⟨trail, last, hTrail, hLast, hMore⟩ := many_tokens tail fun _ => hBorder.isGap_head
      obtain ⟨separator, hSeparator⟩ := orNot_gap hTrail last
      have hItems := pair_of_some (token_of_solid hText hSolid hBorder _) hMore
      have hRead := line_of_separatedBy hGap (fun _ => isGap_head_append hText hSolid)
        (orElse_of_some (map_of_some (pair_of_some hItems hSeparator)))
      rw [List.append_assoc, hRead, hLast]
      simp [Nat.add_assoc]

/-- Optional gaps are read as the leading gap. -/
theorem many_gap_eq (t : Text) (n : Nat) :
    many (char isGap) ⟨n, t⟩ =
      some ((leadingGap t).1, ⟨n + (leadingGap t).1.size, (leadingGap t).2⟩) := by
  have hRead := @many_char isGap (t.takeWhile isGap) (t.dropWhile isGap)
    (fun _ hc => List.mem_takeWhile_imp hc) (fun c hc => ?_) n
  · rwa [List.takeWhile_append_dropWhile] at hRead
  · have hNot := List.head?_dropWhile_not isGap t
    simpa [hc] using hNot

/-- Required gaps are read where the leading gap is not empty. -/
theorem many1_gap_eq (t : Text) (n : Nat) :
    many1 (char isGap) ⟨n, t⟩ =
      if (leadingGap t).1.isEmpty then none
      else some ((leadingGap t).1, ⟨n + (leadingGap t).1.size, (leadingGap t).2⟩) := by
  cases t with
  | nil => rfl
  | cons c rest =>
      cases hc : isGap c with
      | false =>
          have hNone : char isGap ⟨n, c :: rest⟩ = none := if_neg (by simp [hc])
          rw [many1_of_none hNone, leadingGap, List.takeWhile_cons_of_neg (by simp [hc])]
          rfl
      | true =>
          rw [many1_of_some (char_of_pos hc n rest) (many_gap_eq rest _), leadingGap, leadingGap,
            List.takeWhile_cons_of_pos hc, List.dropWhile_cons_of_pos hc, Text.size_cons,
            Nat.add_assoc]
          rfl

/-- The token that the grammar reads first is the leading one. It reads none where the text is empty or
starts with a gap. -/
theorem token_eq (t : Text) :
    token ⟨0, t⟩ =
      (leadingToken? t).map fun (found, rest) => (found, ⟨found.span.stop, rest⟩) := by
  have hLayout := layout_tokenize t
  cases hTokens : tokenize t with
  | nil =>
      rw [hTokens] at hLayout
      cases hLayout with
      | gap hGap =>
          rw [leadingToken?, hTokens]
          exact token_of_gap (fun c hc => List.all_eq_true.mp hGap c (List.mem_of_head? hc)) 0
  | cons found more =>
      simp only [leadingToken?, hTokens]
      rw [hTokens] at hLayout
      cases hLayout with
      | @token _ gap text rest _ hGap hText hSolid hBorder tail =>
          cases gap with
          | nil =>
              have hStart : 0 + Text.size [] = 0 := rfl
              have hRest : Text.dropBytes ([] ++ text ++ rest) (0 + Text.size [] + text.size) = rest :=
                Text.dropBytes_of_eq rfl (by simp)
              rw [if_pos hStart, hRest]
              exact token_of_solid hText hSolid hBorder 0
          | cons c gap =>
              have hHead : ∀ d, (c :: gap ++ text ++ rest).head? = some d → isGap d = true := by
                intro d hd
                obtain rfl : c = d := Option.some.inj hd
                exact List.all_eq_true.mp hGap c List.mem_cons_self
              have hStart : 0 + Text.size (c :: gap) ≠ 0 := by
                have := Char.utf8Size_pos c
                rw [Text.size_cons]
                omega
              rw [token_of_gap hHead, if_neg hStart]
              rfl

end Parser

end ErDiagram
