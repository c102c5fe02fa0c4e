import ErDiagram.Comment
import ErDiagram.Proofs.Text.Trim

/-!
Where a comment can start in a line, and what is left of the line without it: a leading part in which no
comment is found. The search meets the first place where one can start, and misses none.
-/

namespace ErDiagram.Comment

/-- Where no marker stands, the search goes on behind the character. -/
theorem locate_cons_of_not_at {marker : Text} {quoted : Bool} {c : Char} {rest : Text}
    (hQuote : c ≠ '"') (h : (!quoted && marker.isPrefixOf (c :: rest)) = false) :
    locate marker quoted (c :: rest) = (locate marker quoted rest).map (c.utf8Size + ·) := by
  rw [locate, if_neg hQuote, h, if_neg Bool.false_ne_true]

/-- A quote turns around whether the quotes behind it are inside. -/
theorem even_count_cons {c : Char} (hQuote : c = '"') (t : Text) (quoted : Bool) :
    ((c :: t).count '"' + quoted.toNat) % 2 = 0 ↔ (t.count '"' + (!quoted).toNat) % 2 = 0 := by
  rw [hQuote, List.count_cons_self]
  cases quoted with
  | false => rw [Bool.toNat_false, Bool.not_false, Bool.toNat_true, Nat.add_zero]
  | true =>
      rw [Bool.toNat_true, Bool.not_true, Bool.toNat_false]
      omega

/-- A comment can start between two parts of a text; `quoted` says whether the text starts inside double
quotes. -/
structure Opens (marker : Text) (quoted : Bool) (before after : Text) : Prop where
  marker : marker <+: after
  head : ∃ c, after.head? = some c ∧ c ≠ '"'
  quotes : (before.count '"' + quoted.toNat) % 2 = 0

namespace Opens

variable {marker before after : Text} {quoted : Bool}

/-- More text behind changes nothing. -/
theorem append (h : Opens marker quoted before after) (more : Text) :
    Opens marker quoted before (after ++ more) := by
  obtain ⟨hMarker, ⟨c, hHead, hQuote⟩, hQuotes⟩ := h
  refine ⟨hMarker.trans (List.prefix_append after more), ⟨c, ?_, hQuote⟩, hQuotes⟩
  rw [List.head?_append, hHead, Option.some_or]

/-- A quote in front of a text turns around whether the text starts inside quotes. -/
theorem cons_quote_iff :
    Opens marker quoted ('"' :: before) after ↔ Opens marker (!quoted) before after :=
  ⟨fun h => ⟨h.marker, h.head, (even_count_cons rfl before quoted).mp h.quotes⟩,
    fun h => ⟨h.marker, h.head, (even_count_cons rfl before quoted).mpr h.quotes⟩⟩

/-- Any other character in front of a text bears on nothing. -/
theorem cons_iff {c : Char} (hc : c ≠ '"') :
    Opens marker quoted (c :: before) after ↔ Opens marker quoted before after := by
  have hCount : (c :: before).count '"' = before.count '"' := List.count_cons_of_ne hc
  exact ⟨fun h => ⟨h.marker, h.head, hCount ▸ h.quotes⟩,
    fun h => ⟨h.marker, h.head, hCount.symm ▸ h.quotes⟩⟩

end Opens

/-- Where the search stops, a comment can start. -/
theorem exists_opens_of_locate {marker : Text} {quoted : Bool} {t : Text} {n : Nat}
    (h : locate marker quoted t = some n) :
    ∃ before after, t = before ++ after ∧ n = before.size ∧ Opens marker quoted before after := by
  induction t generalizing quoted n with
  | nil => cases h
  | cons c t ih =>
      by_cases hQuote : c = '"'
      · subst hQuote
        rw [locate, if_pos rfl, Option.map_eq_some_iff] at h
        obtain ⟨k, hk, rfl⟩ := h
        obtain ⟨before, after, rfl, rfl, hOpens⟩ := ih hk
        exact ⟨'"' :: before, after, rfl, rfl, Opens.cons_quote_iff.mpr hOpens⟩
      · cases hHere : !quoted && marker.isPrefixOf (c :: t) with
        | true =>
            rw [locate, if_neg hQuote, if_pos hHere] at h
            rw [Bool.and_eq_true, Bool.not_eq_true', List.isPrefixOf_iff_prefix] at hHere
            obtain ⟨rfl, hPrefix⟩ := hHere
            exact ⟨[], c :: t, rfl, (Option.some.inj h).symm, hPrefix, ⟨c, rfl, hQuote⟩, rfl⟩
        | false =>
            rw [locate_cons_of_not_at hQuote hHere, Option.map_eq_some_iff] at h
            obtain ⟨k, hk, rfl⟩ := h
            obtain ⟨before, after, rfl, rfl, hOpens⟩ := ih hk
            exact ⟨c :: before, after, rfl, rfl, (Opens.cons_iff hQuote).mpr hOpens⟩

/-- The search does not go past a place where a comment can start. -/
theorem exists_locate_le {marker before after : Text} {quoted : Bool}
    (h : Opens marker quoted before after) :
    ∃ n, locate marker quoted (before ++ after) = some n ∧ n ≤ before.size := by
  induction before generalizing quoted with
  | nil =>
      obtain ⟨hMarker, ⟨c, hHead, hQuote⟩, hQuotes⟩ := h
      obtain ⟨rest, rfl⟩ := List.head?_eq_some_iff.mp hHead
      have hOpen : quoted = false := by
        cases quoted with
        | false => rfl
        | true => cases hQuotes
      have hHere : (!quoted && marker.isPrefixOf (c :: rest)) = true := by
        rw [hOpen, List.isPrefixOf_iff_prefix.mpr hMarker]
        rfl
      exact ⟨0, by rw [List.nil_append, locate, if_neg hQuote, if_pos hHere], Nat.le_refl 0⟩
  | cons c before ih =>
      rw [List.cons_append]
      by_cases hQuote : c = '"'
      · subst hQuote
        obtain ⟨n, hn, hLe⟩ := ih (Opens.cons_quote_iff.mp h)
        refine ⟨'"'.utf8Size + n, by rw [locate, if_pos rfl, hn, Option.map_some], ?_⟩
        exact Nat.add_le_add_left hLe _
      · obtain ⟨n, hn, hLe⟩ := ih ((Opens.cons_iff hQuote).mp h)
        cases hHere : !quoted && marker.isPrefixOf (c :: (before ++ after)) with
        | true => exact ⟨0, by rw [locate, if_neg hQuote, if_pos hHere], Nat.zero_le _⟩
        | false =>
            refine ⟨c.utf8Size + n, ?_, Nat.add_le_add_left hLe _⟩
            rw [locate_cons_of_not_at hQuote hHere, hn, Option.map_some]

/-- A comment in a leading part of a text starts within that part, and the whole text has one no later. -/
theorem exists_locate_append {marker a : Text} {quoted : Bool} {n : Nat}
    (h : locate marker quoted a = some n) (b : Text) :
    n < a.size ∧ ∃ m, locate marker quoted (a ++ b) = some m ∧ m ≤ n := by
  obtain ⟨before, after, rfl, rfl, hOpens⟩ := exists_opens_of_locate h
  obtain ⟨c, hHead, -⟩ := hOpens.head
  have hSize : 0 < after.size := Text.size_pos_of_ne_nil (List.ne_nil_of_mem (List.mem_of_head? hHead))
  refine ⟨by rw [Text.size_append]; omega, ?_⟩
  rw [List.append_assoc]
  exact exists_locate_le (hOpens.append b)

/-- A leading part of a text without a comment has none either. -/
theorem locate_eq_none_of_append {marker : Text} {quoted : Bool} {a b : Text}
    (h : locate marker quoted (a ++ b) = none) : locate marker quoted a = none := by
  apply Option.eq_none_iff_forall_ne_some.mpr
  intro n hn
  obtain ⟨-, m, hm, -⟩ := exists_locate_append hn b
  rw [h] at hm
  cases hm

/-- A comment starts at a character, and the text in front of it has no comment. -/
theorem exists_of_locate {marker : Text} {quoted : Bool} {t : Text} {n : Nat}
    (h : locate marker quoted t = some n) :
    ∃ before c after, t = before ++ c :: after ∧ n = before.size ∧
      locate marker quoted before = none := by
  obtain ⟨before, after, rfl, rfl, hOpens⟩ := exists_opens_of_locate h
  obtain ⟨c, hHead, -⟩ := hOpens.head
  obtain ⟨rest, rfl⟩ := List.head?_eq_some_iff.mp hHead
  refine ⟨before, c, rest, rfl, rfl, Option.eq_none_iff_forall_ne_some.mpr fun k hk => ?_⟩
  obtain ⟨hLt, m, hm, hLe⟩ := exists_locate_append hk (c :: rest)
  rw [h, Option.some.injEq] at hm
  omega

/-- A line is its code and the rest of it; where something was cut, the code ends tightly. -/
theorem exists_strip (marker content : Text) :
    ∃ cut, content = strip marker content ++ cut ∧
      ((find? marker content = none ∧ cut = []) ∨
        ((find? marker content).isSome ∧ cut ≠ [] ∧
          (strip marker content).trimEnd = strip marker content)) := by
  cases hFind : find? marker content with
  | none => exact ⟨[], by simp [strip, hFind], Or.inl ⟨rfl, rfl⟩⟩
  | some n =>
      obtain ⟨before, c, after, hEq, rfl, -⟩ := exists_of_locate hFind
      have hStrip : strip marker content = before.trimEnd := by
        simp only [strip, hFind]
        rw [Text.takeBytes_of_eq hEq rfl]
      obtain ⟨trail, hTrail, hBefore⟩ := Text.exists_trimEnd before
      refine ⟨trail ++ c :: after, ?_, Or.inr ⟨rfl, by simp, ?_⟩⟩
      · rw [hStrip, ← List.append_assoc, ← hBefore, hEq]
      · rw [hStrip]
        exact Text.trimEnd_eq_self fun d hd => Text.last_trimEnd hd

/-- Nothing that looks like a comment is left. -/
theorem find?_strip (marker content : Text) : find? marker (strip marker content) = none := by
  cases hFind : find? marker content with
  | none => simp only [strip, hFind]
  | some n =>
      obtain ⟨before, c, after, hEq, rfl, hNone⟩ := exists_of_locate hFind
      obtain ⟨trail, -, hBefore⟩ := Text.exists_trimEnd before
      simp only [strip, hFind]
      rw [Text.takeBytes_of_eq hEq rfl]
      exact locate_eq_none_of_append (hBefore ▸ hNone)

theorem strip_eq_self {marker content : Text} (h : find? marker content = none) :
    strip marker content = content := by
  rw [strip, h]

/-- A marker stands in a text outside of double quotes: an even number of quotes is in front of it. -/
def Occurs (marker t : Text) : Prop :=
  ∃ a b, t = a ++ marker ++ b ∧ a.count '"' % 2 = 0

/-- A comment is found exactly when a marker has an even number of quotes in front of it. -/
theorem find?_isSome_iff {marker : Text} (hMarker : ∃ c, marker.head? = some c ∧ c ≠ '"') (t : Text) :
    (find? marker t).isSome ↔ Occurs marker t := by
  constructor
  · intro h
    obtain ⟨n, hn⟩ := Option.isSome_iff_exists.mp h
    obtain ⟨a, after, rfl, -, hOpens⟩ := exists_opens_of_locate hn
    obtain ⟨b, rfl⟩ := hOpens.marker
    exact ⟨a, b, (List.append_assoc ..).symm, hOpens.quotes⟩
  · rintro ⟨a, b, rfl, hEven⟩
    obtain ⟨c, hHead, hQuote⟩ := hMarker
    have hOpens : Opens marker false a (marker ++ b) := by
      refine ⟨List.prefix_append marker b, ⟨c, ?_, hQuote⟩, hEven⟩
      rw [List.head?_append, hHead, Option.some_or]
    obtain ⟨n, hn, -⟩ := exists_locate_le hOpens
    rw [List.append_assoc, find?, hn]
    rfl

/-- Outside of quotes a marker starts a comment where it stands. -/
theorem locate_marker {marker : Text} (hMarker : ∃ c, marker.head? = some c ∧ c ≠ '"') (b : Text) :
    locate marker false (marker ++ b) = some 0 := by
  obtain ⟨c, hHead, hQuote⟩ := hMarker
  obtain ⟨rest, rfl⟩ : ∃ rest, marker = c :: rest := List.head?_eq_some_iff.mp hHead
  rw [List.cons_append, locate, if_neg hQuote, if_pos]
  simp

theorem map_add_map_add (n m : Nat) (position? : Option Nat) :
    (position?.map (m + ·)).map (n + ·) = position?.map (n + m + ·) := by
  cases position? with
  | none => rfl
  | some k => exact congrArg some (Nat.add_assoc n m k).symm

/-- The search goes on behind a text in which it finds nothing, if the text has closed its quotes and
no marker reaches over its end. -/
theorem locate_append {marker a b : Text} {quoted : Bool}
    (hMeet : ∃ c, b.head? = some c ∧ c ∉ marker) (hNone : locate marker quoted a = none)
    (hEven : (a.count '"' + quoted.toNat) % 2 = 0) :
    locate marker quoted (a ++ b) = (locate marker false b).map (a.size + ·) := by
  obtain ⟨d, hHead, hd⟩ := hMeet
  obtain ⟨rest, rfl⟩ := List.head?_eq_some_iff.mp hHead
  -- The parity of the quotes ahead decides whether the end of the text is inside of quotes.
  induction a generalizing quoted with
  | nil =>
      have hOpen : quoted = false := by
        cases quoted with
        | false => rfl
        | true => cases hEven
      simp [hOpen]
  | cons c a ih =>
      rw [List.cons_append]
      by_cases hQuote : c = '"'
      · rw [locate, if_pos hQuote, Option.map_eq_none_iff] at hNone
        rw [locate, if_pos hQuote, ih hNone ((even_count_cons hQuote a quoted).mp hEven),
          map_add_map_add, Text.size_cons]
      · have hShort : (!quoted && marker.isPrefixOf (c :: a)) = false := by
          rw [locate, if_neg hQuote] at hNone
          split at hNone
          next => cases hNone
          next hHere => exact Bool.eq_false_iff.mpr hHere
        have hHere : (!quoted && marker.isPrefixOf (c :: (a ++ d :: rest))) = false := by
          rwa [← List.cons_append, Text.isPrefixOf_append_cons hd]
        rw [locate_cons_of_not_at hQuote hShort, Option.map_eq_none_iff] at hNone
        rw [List.count_cons_of_ne hQuote] at hEven
        rw [locate_cons_of_not_at hQuote hHere, ih hNone hEven, map_add_map_add, Text.size_cons]

/-- The search passes over a text without quotes and without the first character of the marker. -/
theorem locate_append_of_not_mem {c : Char} {marker t : Text} {quoted : Bool} (hc : c ∉ t)
    (hQuote : '"' ∉ t) (rest : Text) :
    locate (c :: marker) quoted (t ++ rest) =
      (locate (c :: marker) quoted rest).map (t.size + ·) := by
  induction t with
  | nil => simp
  | cons d t ih =>
      rw [List.mem_cons, not_or] at hc hQuote
      have hNotAt : (!quoted && (c :: marker).isPrefixOf (d :: (t ++ rest))) = false := by
        simp [List.isPrefixOf, hc.1]
      rw [List.cons_append, locate_cons_of_not_at (Ne.symm hQuote.1) hNotAt, ih hc.2 hQuote.2,
        map_add_map_add, Text.size_cons]

/-- Behind code that has closed its quotes a comment goes together with the blanks in front of it. -/
theorem strip_append_marker {marker code gap : Text}
    (hMarker : ∃ c, marker.head? = some c ∧ c ≠ '"') (hBlank : marker.hasBlank = false)
    (hGap : gap.isAllBlank) (hne : gap ≠ []) (hNone : find? marker code = none)
    (hEven : code.count '"' % 2 = 0) (words : Text) :
    strip marker (code ++ (gap ++ (marker ++ words))) = code.trimEnd := by
  have hNotIn {c : Char} (hc : c ∈ gap) : c ∉ marker :=
    Text.not_mem_of_hasBlank hBlank (Text.isAllBlank_iff.mp hGap c hc)
  have hFind : find? marker (code ++ (gap ++ (marker ++ words))) = some (code.size + gap.size) := by
    have hMeet : ∃ c, (gap ++ (marker ++ words)).head? = some c ∧ c ∉ marker := by
      obtain ⟨c, rest, rfl⟩ := List.exists_cons_of_ne_nil hne
      exact ⟨c, rfl, hNotIn List.mem_cons_self⟩
    have hHere := locate_marker hMarker words
    rw [find?, locate_append hMeet hNone hEven]
    obtain ⟨d, hHead, -⟩ := hMarker
    obtain ⟨rest, rfl⟩ : ∃ rest, marker = d :: rest := List.head?_eq_some_iff.mp hHead
    rw [locate_append_of_not_mem (fun hMem => hNotIn hMem List.mem_cons_self)
      (Text.not_mem_of_blank hGap rfl), hHere]
    rfl
  rw [strip, hFind]
  simp only
  rw [Text.takeBytes_of_eq (List.append_assoc ..).symm (Text.size_append ..).symm,
    Text.trimEnd_append_of_blank _ hGap]

end ErDiagram.Comment
