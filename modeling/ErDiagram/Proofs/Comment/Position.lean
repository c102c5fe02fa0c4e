import ErDiagram.Proofs.Comment
import ErDiagram.Proofs.Text.Span

/-!
The position of a comment, and the line that is cut there, said without a search. A comment starts behind
an even number of double quotes, at a character that is no quote, where the text goes on with the marker.
The search gives the first such position under any marker, the empty one and markers with quotes included.
-/

namespace ErDiagram.Comment

/-- A comment can start at a position of a text. -/
structure CanStart (marker content : Text) (position : Nat) : Prop where
  boundary : content.hasBoundary position = true
  marker : marker <+: content.dropBytes position
  head : ∃ c, (content.dropBytes position).head? = some c ∧ c ≠ '"'
  quotes : (content.takeBytes position).count '"' % 2 = 0

/-- A line cut at a position. The blanks in front of the position are gone, and all quotes are closed. -/
structure CutAt (content code : Text) (position : Nat) : Prop where
  parts : ∃ blanks rest : Text, content = code ++ blanks ++ rest ∧ blanks.isAllBlank = true ∧
    position = (code ++ blanks).size
  last : ∀ c, code.getLast? = some c → isBlank c = false
  quotes : code.count '"' % 2 = 0

variable {marker content : Text} {n : Nat}

/-- Such a position lies between two parts of the text. -/
theorem canStart_iff :
    CanStart marker content n ↔ ∃ before after, content = before ++ after ∧ n = before.size ∧
      Opens marker false before after := by
  constructor
  · rintro ⟨hBoundary, hMarker, hHead, hQuotes⟩
    obtain ⟨before, after, rfl, rfl⟩ := Text.exists_of_hasBoundary hBoundary
    rw [Text.dropBytes_size_append] at hMarker hHead
    rw [Text.takeBytes_size_append] at hQuotes
    exact ⟨before, after, rfl, rfl, hMarker, hHead, hQuotes⟩
  · rintro ⟨before, after, rfl, rfl, hMarker, hHead, hQuotes⟩
    refine ⟨Text.hasBoundary_of_eq rfl rfl, ?_, ?_, ?_⟩
    · rwa [Text.dropBytes_size_append]
    · rwa [Text.dropBytes_size_append]
    · rwa [Text.takeBytes_size_append]

theorem canStart_of_find? (h : find? marker content = some n) : CanStart marker content n :=
  canStart_iff.mpr (exists_opens_of_locate h)

theorem exists_find?_le (h : CanStart marker content n) :
    ∃ m, find? marker content = some m ∧ m ≤ n := by
  obtain ⟨before, after, rfl, rfl, hOpens⟩ := canStart_iff.mp h
  exact exists_locate_le hOpens

/-- A comment is found at the first position at which one can start. -/
theorem find?_eq_some_iff :
    find? marker content = some n ↔
      CanStart marker content n ∧ ∀ m, CanStart marker content m → n ≤ m := by
  constructor
  · intro hFind
    refine ⟨canStart_of_find? hFind, fun m hStart => ?_⟩
    obtain ⟨k, hk, hLe⟩ := exists_find?_le hStart
    rw [hFind, Option.some.injEq] at hk
    exact hk ▸ hLe
  · rintro ⟨hStart, hFirst⟩
    obtain ⟨m, hFind, hLe⟩ := exists_find?_le hStart
    rw [hFind, Nat.le_antisymm hLe (hFirst m (canStart_of_find? hFind))]

theorem find?_eq_none_iff : find? marker content = none ↔ ∀ n, ¬ CanStart marker content n := by
  constructor
  · intro hNone n hStart
    obtain ⟨m, hFind, -⟩ := exists_find?_le hStart
    rw [hNone] at hFind
    cases hFind
  · intro hNowhere
    exact Option.eq_none_iff_forall_ne_some.mpr fun n hFind => hNowhere n (canStart_of_find? hFind)

/-- Where a comment is found the line is cut. The blanks that go with it hold no quotes, so the code has as
many as the text in front of the comment. -/
theorem cutAt_strip (h : find? marker content = some n) :
    CutAt content (strip marker content) n := by
  obtain ⟨before, after, rfl, rfl, hOpens⟩ := exists_opens_of_locate h
  obtain ⟨blanks, hBlanks, hBefore⟩ := Text.exists_trimEnd before
  have hStrip : strip marker (before ++ after) = before.trimEnd := by
    rw [strip, h]
    exact congrArg Text.trimEnd (Text.takeBytes_size_append before after)
  have hNone : blanks.count '"' = 0 := List.count_eq_zero.mpr (Text.not_mem_of_blank hBlanks rfl)
  have hQuotes := hOpens.quotes
  rw [hBefore, List.count_append, hNone] at hQuotes
  rw [hStrip]
  exact ⟨⟨blanks, after, by rw [← hBefore], hBlanks, by rw [← hBefore]⟩,
    fun c hc => Text.last_trimEnd hc, hQuotes⟩

/-- A comment is found at the first position at which one can start, and none if there is no such position.
Stripping cuts the line there, and leaves a line without a comment as it is. What it leaves is a leading
part of the line in which no comment is found, so stripping once more changes nothing. -/
theorem find?_first_and_strip (marker content : Text) :
    (∀ n, find? marker content = some n ↔
      CanStart marker content n ∧ ∀ m, CanStart marker content m → n ≤ m) ∧
    (find? marker content = none ↔ ∀ n, ¬ CanStart marker content n) ∧
    (find? marker content = none → strip marker content = content) ∧
    (∀ n, find? marker content = some n → CutAt content (strip marker content) n) ∧
    strip marker content <+: content ∧
    find? marker (strip marker content) = none ∧
    strip marker (strip marker content) = strip marker content := by
  obtain ⟨cut, hCut, -⟩ := exists_strip marker content
  have hNone := find?_strip marker content
  exact ⟨fun n => find?_eq_some_iff, find?_eq_none_iff, strip_eq_self, fun n => cutAt_strip,
    ⟨cut, hCut.symm⟩, hNone, strip_eq_self hNone⟩

/-- A marker with a quote in it. Its first occurrence starts inside of quotes, and in front of the second
one stands a blank of three bytes. -/
theorem find?_first_and_strip_quote :
    let marker := "a\"".toList
    let content := "x \"a\"\u3000a\" b".toList
    find? marker content = some 8 ∧ (∀ m, CanStart marker content m → 8 ≤ m) ∧
      CutAt content (strip marker content) 8 ∧ strip marker content = "x \"a\"".toList := by
  intro marker content
  have hFind : find? marker content = some 8 := by decide
  obtain ⟨hFirst, -, -, hCut, -⟩ := find?_first_and_strip marker content
  exact ⟨hFind, ((hFirst 8).mp hFind).2, hCut 8 hFind, by decide⟩

end ErDiagram.Comment
