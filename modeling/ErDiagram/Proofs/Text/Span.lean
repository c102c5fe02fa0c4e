import ErDiagram.Proofs.Text.Trim

/-!
Spans that cut no character, and cutting with a check. A cut with a check gives nothing where a span
leaves the text, ends in front of its start or starts or stops inside a character; elsewhere it gives
what the cut without a check gives.
-/

namespace ErDiagram

namespace Text

theorem hasBoundary_of_eq {t a b : Text} {n : Nat} (h : t = a ++ b) (hn : n = a.size) :
    t.hasBoundary n = true := by
  rw [hasBoundary, takeBytes_of_eq h hn, hn, beq_self_eq_true]

theorem exists_of_hasBoundary {t : Text} {n : Nat} (h : t.hasBoundary n = true) :
    ∃ a b, t = a ++ b ∧ n = a.size := by
  refine ⟨t.takeBytes n, t.dropBytes n, (takeBytes_append_dropBytes t n).symm, ?_⟩
  rw [hasBoundary, beq_iff_eq] at h
  exact h.symm

/-- Of two leading parts of a text the one with fewer bytes leads the other one. -/
theorem exists_between {t a a' b b' : Text} (ha : t = a ++ a') (hb : t = b ++ b')
    (h : a.size ≤ b.size) : ∃ between, b = a ++ between := by
  rcases List.prefix_or_prefix_of_prefix ⟨a', ha.symm⟩ ⟨b', hb.symm⟩ with ⟨z, rfl⟩ | ⟨z, rfl⟩
  · exact ⟨z, rfl⟩
  · rw [size_append] at h
    obtain rfl : z = [] := size_eq_zero_iff.mp (by omega)
    exact ⟨[], by simp⟩

/-- Two positions between characters cut a text into three parts. -/
theorem exists_parts_of_hasBoundary {t : Text} {n m : Nat} (h : n ≤ m)
    (hn : t.hasBoundary n = true) (hm : t.hasBoundary m = true) :
    ∃ a b c, t = a ++ b ++ c ∧ n = a.size ∧ m = a.size + b.size := by
  obtain ⟨a, rest, hRest, rfl⟩ := exists_of_hasBoundary hn
  obtain ⟨front, c, hFront, rfl⟩ := exists_of_hasBoundary hm
  obtain ⟨b, rfl⟩ := exists_between hRest hFront h
  exact ⟨a, b, c, hFront, rfl, size_append a b⟩

/-- The characters at a span, if it lies in the text and cuts no character. -/
def slice? (t : Text) (span : Span) : Option Text :=
  if span.start ≤ span.stop ∧ t.hasBoundary span.start = true ∧ t.hasBoundary span.stop = true then
    some (t.slice span)
  else none

/-- The span without the blanks at both ends of its text, if that text can be cut out. -/
def trimSpan? (t : Text) (span : Span) : Option Span :=
  (t.slice? span).map fun _ => t.trimSpan span

theorem slice?_of_eq {t a b c : Text} {n m : Nat} (h : t = a ++ b ++ c) (hn : n = a.size)
    (hm : m = a.size + b.size) : t.slice? ⟨n, m⟩ = some b := by
  have hStart : t.hasBoundary n = true := hasBoundary_of_eq (h.trans (List.append_assoc ..)) hn
  have hStop : t.hasBoundary m = true := hasBoundary_of_eq h (hm.trans (size_append a b).symm)
  rw [slice?, if_pos ⟨by simp only; omega, hStart, hStop⟩, slice_of_eq h hn hm]

theorem slice?_front {t a b : Text} (h : t = a ++ b) : t.slice? ⟨0, a.size⟩ = some a :=
  slice?_of_eq (a := []) h rfl (Nat.zero_add _).symm

theorem slice?_rest {t a b : Text} {n : Nat} (h : t = a ++ b) (hn : n = a.size) :
    t.slice? ⟨n, t.size⟩ = some b :=
  slice?_of_eq (c := []) (by simpa using h) hn (by rw [h, size_append])

theorem trimSpan?_of_slice? {t part : Text} {span : Span} (h : t.slice? span = some part) :
    t.trimSpan? span = some (t.trimSpan span) := by
  rw [trimSpan?, h, Option.map_some]

/-- A text up to the first of some character, or the whole of it. -/
theorem slice?_upTo (c : Char) (t : Text) :
    t.slice? ⟨0, (find? [c] t).getD t.size⟩ = some (t.takeWhile (· != c)) := by
  by_cases hMem : c ∈ t
  · obtain ⟨a, b, rfl, ha⟩ := List.eq_append_cons_of_mem hMem
    rw [find?_singleton c a b ha, takeWhile_of_first ha]
    exact slice?_front rfl
  · rw [(find?_singleton_eq_none c t).mpr hMem, takeWhile_of_not_mem hMem]
    exact slice?_front (List.append_nil t).symm

end Text

namespace Span

/-- A span that covers something of a text and cuts no character of it. -/
structure Within (span : Span) (t : Text) : Prop where
  nonempty : span.start < span.stop
  inside : span.stop ≤ t.size
  start : t.hasBoundary span.start = true
  stop : t.hasBoundary span.stop = true

/-- The first span ends where the second one starts, or in front of that. -/
def Before (a b : Span) : Prop :=
  a.stop ≤ b.start

/-- The spans have nothing in common. -/
def Apart (a b : Span) : Prop :=
  a.Before b ∨ b.Before a

/-- A part of a text that is not empty stands within it. -/
theorem within_of_eq {t a b c : Text} {n m : Nat} (h : t = a ++ b ++ c) (hb : b ≠ [])
    (hn : n = a.size) (hm : m = a.size + b.size) : Within ⟨n, m⟩ t where
  nonempty := by
    have := Text.size_pos_of_ne_nil hb
    simp only
    omega
  inside := by
    rw [h, Text.size_append, Text.size_append]
    simp only
    omega
  start := Text.hasBoundary_of_eq (h.trans (List.append_assoc ..)) hn
  stop := Text.hasBoundary_of_eq h (hm.trans (Text.size_append a b).symm)

/-- The text in front of a span and the text behind it. -/
theorem Within.exists_parts {span : Span} {t : Text} (h : span.Within t) :
    ∃ a c, t = a ++ t.slice span ++ c ∧
      span = ⟨a.size, a.size + (t.slice span).size⟩ := by
  obtain ⟨start, stop⟩ := span
  obtain ⟨a, b, c, hText, hStart, hStop⟩ :=
    Text.exists_parts_of_hasBoundary (Nat.le_of_lt h.nonempty) h.start h.stop
  simp only at hStart hStop
  have hSlice : t.slice ⟨start, stop⟩ = b := Text.slice_of_eq hText hStart hStop
  rw [hSlice]
  exact ⟨a, c, hText, by rw [hStart, hStop]⟩

theorem Within.size_slice {span : Span} {t : Text} (h : span.Within t) :
    (t.slice span).size = span.stop - span.start := by
  obtain ⟨front, back, -, hSpan⟩ := h.exists_parts
  rw [congrArg Span.stop hSpan, congrArg Span.start hSpan]
  exact (Nat.add_sub_cancel_left ..).symm

/-- From the start of one span to the end of another. -/
theorem Within.join {a b : Span} {t : Text} (ha : a.Within t) (hb : b.Within t) (h : a.Before b) :
    Within ⟨a.start, b.stop⟩ t where
  nonempty := Nat.lt_trans (Nat.lt_of_lt_of_le ha.nonempty h) hb.nonempty
  inside := hb.inside
  start := ha.start
  stop := hb.stop

theorem Within.slice? {span : Span} {t : Text} (h : span.Within t) :
    t.slice? span = some (t.slice span) := by
  rw [Text.slice?, if_pos ⟨Nat.le_of_lt h.nonempty, h.start, h.stop⟩]

end Span

end ErDiagram
