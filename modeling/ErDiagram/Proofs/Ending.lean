import ErDiagram.Proofs.Line
import Mathlib.Data.List.Infix

/-!
The endings of a text, one for each piece between line feeds. They tell how many line feeds a text has
and how many of them a carriage return precedes, and for the text of sound lines they are the endings
of the lines. Converting the line feeds of a text converts its lines one by one.
-/

namespace ErDiagram

namespace Text

/-- The number of places where one text stands in another. -/
def occurrences (pattern t : Text) : Nat :=
  t.tails.countP pattern.isPrefixOf

/-- The text with a carriage return in front of every line feed. -/
def withCrlf (t : Text) : Text :=
  t.flatMap fun c => if c = '\n' then ['\r', '\n'] else [c]

theorem occurrences_cons (pattern : Text) (c : Char) (t : Text) :
    occurrences pattern (c :: t) =
      occurrences pattern t + if pattern.isPrefixOf (c :: t) then 1 else 0 := by
  rw [occurrences, List.tails, List.countP_cons]
  rfl

theorem length_splitOn_newline (t : Text) : (t.splitOn '\n').length = t.count '\n' + 1 := by
  induction t with
  | nil => rfl
  | cons c t ih =>
      rw [List.splitOn] at ih ⊢
      rw [List.splitOnP_cons_eq_if_modifyHead, List.count_cons]
      split
      · rw [List.length_cons, ih]
      · rw [List.length_modifyHead, ih]

theorem splitOn_of_not_mem {body : Text} (h : '\n' ∉ body) : body.splitOn '\n' = [body] := by
  apply List.splitOnP_eq_singleton
  intro c hc
  rw [beq_eq_false_iff_ne]
  rintro rfl
  exact h hc

theorem splitOn_append {body : Text} (h : '\n' ∉ body) (rest : Text) :
    (body ++ '\n' :: rest).splitOn '\n' = body :: rest.splitOn '\n' := by
  apply List.splitOnP_append_cons_of_forall_mem
  · intro c hc
    rw [beq_eq_false_iff_ne]
    rintro rfl
    exact h hc
  · rfl

end Text

/-- How a piece in front of a line feed ends as a line. -/
def Ending.ofPiece (piece : Text) : Ending :=
  if piece.getLast? = some '\r' then .crlf else .lf

/-- The endings of the pieces of a text between line feeds. The last piece ends with the text, even if
it is empty. -/
def endings (t : Text) : List Ending :=
  (t.splitOn '\n').dropLast.map Ending.ofPiece ++ [.endOfText]

theorem length_endings (t : Text) : (endings t).length = (t.splitOn '\n').length := by
  have := Text.length_splitOn_newline t
  rw [endings, List.length_append, List.length_map, List.length_dropLast, List.length_singleton]
  omega

theorem endings_of_not_mem {body : Text} (h : '\n' ∉ body) : endings body = [.endOfText] := by
  rw [endings, Text.splitOn_of_not_mem h]
  rfl

theorem endings_append {body : Text} (h : '\n' ∉ body) (rest : Text) :
    endings (body ++ '\n' :: rest) = Ending.ofPiece body :: endings rest := by
  have hne : rest.splitOn '\n' ≠ [] := by
    apply List.length_pos_iff.mp
    rw [Text.length_splitOn_newline]
    exact Nat.succ_pos _
  rw [endings, Text.splitOn_append h, List.dropLast_cons_of_ne_nil hne]
  rfl

namespace Line

/-- The first ending of a text that starts with a sound line is that of the line. -/
theorem Sound.endings_append {line : Line} (h : line.Sound) (hEnding : line.ending ≠ .endOfText)
    (rest : Text) : endings (line.text ++ rest) = line.ending :: endings rest := by
  obtain ⟨body, ending⟩ := line
  cases ending with
  | endOfText => exact absurd rfl hEnding
  | lf =>
      have hText : Line.text ⟨body, .lf⟩ ++ rest = body ++ '\n' :: rest := by
        simp [Line.text, Ending.text]
      rw [hText, ErDiagram.endings_append h.newline, Ending.ofPiece, if_neg (h.carriage rfl)]
  | crlf =>
      have hText : Line.text ⟨body, .crlf⟩ ++ rest = (body ++ ['\r']) ++ '\n' :: rest := by
        simp [Line.text, Ending.text]
      have hNewline : '\n' ∉ body ++ ['\r'] := by simpa using h.newline
      rw [hText, ErDiagram.endings_append hNewline, Ending.ofPiece, List.getLast?_concat, if_pos rfl]

end Line

/-- The endings of the text of sound lines. If the last line has a line feed, an empty piece follows
it. -/
theorem endings_joinLines {lines : List Line} (h : SoundLines lines) :
    endings (joinLines lines) =
      (lines.map Line.ending).filter (· ≠ .endOfText) ++ [.endOfText] := by
  induction lines with
  | nil => rfl
  | cons line rest ih =>
      obtain ⟨hSound, hLast, hRest⟩ := h
      by_cases hEnding : line.ending = .endOfText
      · obtain rfl := hLast hEnding
        have hText : joinLines [line] = line.body := by
          simp [joinLines, Line.text, Ending.text, hEnding]
        rw [hText, endings_of_not_mem hSound.newline]
        simp [hEnding]
      · rw [joinLines_cons, hSound.endings_append hEnding, ih hRest, List.map_cons,
          List.filter_cons_of_pos]
        · rfl
        · simpa using hEnding

/-- Two texts of sound lines that end alike, line by line, have the same endings. -/
theorem endings_congr {lines lines' : List Line} (h : SoundLines lines) (h' : SoundLines lines')
    (hEndings : lines'.map Line.ending = lines.map Line.ending) :
    endings (joinLines lines') = endings (joinLines lines) := by
  rw [endings_joinLines h, endings_joinLines h', hEndings]

theorem count_newline_eq (t : Text) : t.count '\n' + 1 = (endings t).length := by
  rw [length_endings, Text.length_splitOn_newline]

section Crlf

/-- A body in front of which no line break is joined has none itself. -/
theorem occurrences_crlf_append {body rest : Text} (h : '\n' ∉ body)
    (hBorder : body.getLast? = some '\r' → rest.head? ≠ some '\n') :
    Text.occurrences ['\r', '\n'] (body ++ rest) = Text.occurrences ['\r', '\n'] rest := by
  induction body with
  | nil => rfl
  | cons c body ih =>
      rw [List.mem_cons, not_or] at h
      have hTail : body.getLast? = some '\r' → rest.head? ≠ some '\n' := by
        intro hLast
        exact hBorder (by rw [List.getLast?_cons, hLast]; rfl)
      have hHere : ['\r', '\n'].isPrefixOf (c :: (body ++ rest)) = false := by
        apply Bool.eq_false_iff.mpr
        rw [ne_eq, List.isPrefixOf_iff_prefix]
        rintro ⟨z, hz⟩
        obtain ⟨rfl, hNext⟩ := List.cons.inj hz
        cases body with
        | nil => exact hBorder rfl (congrArg List.head? hNext).symm
        | cons d body => exact h.2 ((List.cons.inj hNext).1 ▸ List.mem_cons_self)
      rw [List.cons_append, Text.occurrences_cons, ih h.2 hTail, hHere]
      rfl

theorem occurrences_crlf_joinLines {lines : List Line} (h : SoundLines lines) :
    Text.occurrences ['\r', '\n'] (joinLines lines) = (lines.map Line.ending).count .crlf := by
  induction lines with
  | nil => rfl
  | cons line rest ih =>
      obtain ⟨⟨hNewline, hCarriage⟩, hLast, hRest⟩ := h
      obtain ⟨body, ending⟩ := line
      rw [joinLines_cons, Line.text, List.append_assoc, List.map_cons, List.count_cons]
      cases ending with
      | endOfText =>
          obtain rfl := hLast rfl
          rw [occurrences_crlf_append hNewline fun _ => by simp [Ending.text, joinLines]]
          rfl
      | lf =>
          rw [occurrences_crlf_append hNewline fun hEnd => absurd hEnd (hCarriage rfl), ← ih hRest]
          exact Text.occurrences_cons _ _ _
      | crlf =>
          rw [occurrences_crlf_append hNewline fun _ => by simp [Ending.text], ← ih hRest]
          change Text.occurrences _ ('\r' :: '\n' :: joinLines rest) = _
          rw [Text.occurrences_cons, Text.occurrences_cons]
          rfl

/-- The line with a carriage return in front of its line feed. -/
def Line.withCrlf (line : Line) : Line :=
  ⟨line.body, if line.ending = .lf then .crlf else line.ending⟩

theorem splitLines_withCrlf {t : Text} (h : '\r' ∉ t) :
    splitLines t.withCrlf = (splitLines t).map Line.withCrlf := by
  induction t with
  | nil => rfl
  | cons c t ih =>
      rw [List.mem_cons, not_or] at h
      have hTail := ih h.2
      by_cases hc : c = '\n'
      · subst hc
        have hText : Text.withCrlf ('\n' :: t) = '\r' :: '\n' :: Text.withCrlf t := rfl
        have hFeed : splitLines ('\n' :: Text.withCrlf t) =
            ⟨[], .lf⟩ :: splitLines (Text.withCrlf t) := rfl
        rw [hText, splitLines_cons_of_ne (by decide) hFeed, hTail]
        rfl
      · have hText : Text.withCrlf (c :: t) = c :: Text.withCrlf t := by
          simp [Text.withCrlf, hc]
        rw [hText]
        cases hLines : splitLines t with
        | nil =>
            rw [hLines] at hTail
            rw [splitLines, splitLines, if_neg hc, if_neg hc, hTail, hLines]
            rfl
        | cons line more =>
            rw [hLines] at hTail
            have hPush (other : Line) : other.push c = ⟨c :: other.body, other.ending⟩ :=
              if_neg fun hJoin => h.1 hJoin.1.symm
            rw [splitLines_cons_of_ne hc hTail, splitLines_cons_of_ne hc hLines, List.map_cons,
              hPush, hPush]
            rfl

/-- Lines without carriage returns in their endings convert as their text does. -/
theorem joinLines_withCrlf {lines : List Line}
    (h : ∀ line ∈ lines, '\n' ∉ line.body ∧ line.ending ≠ .crlf) :
    joinLines (lines.map Line.withCrlf) = (joinLines lines).withCrlf := by
  induction lines with
  | nil => rfl
  | cons line rest ih =>
      obtain ⟨hNewline, hEnding⟩ := h line List.mem_cons_self
      have hBody : Text.withCrlf line.body = line.body := by
        rw [Text.withCrlf, List.flatMap_congr (g := fun c => [c]), List.flatMap_singleton']
        intro c hc
        rw [if_neg]
        rintro rfl
        exact hNewline hc
      have hText : line.withCrlf.text = line.text.withCrlf := by
        have hSplit : Text.withCrlf line.text = Text.withCrlf line.body ++
            Text.withCrlf line.ending.text := List.flatMap_append
        rw [hSplit, hBody]
        cases hCase : line.ending with
        | endOfText => simp [Line.text, Line.withCrlf, hCase, Ending.text, Text.withCrlf]
        | lf => simp [Line.text, Line.withCrlf, hCase, Ending.text, Text.withCrlf]
        | crlf => exact absurd hCase hEnding
      have hRest := ih fun other hOther => h other (List.mem_cons_of_mem _ hOther)
      rw [List.map_cons, joinLines_cons, joinLines_cons, hText, hRest, Text.withCrlf, Text.withCrlf, Text.withCrlf,
        List.flatMap_append]

theorem ending_ne_crlf {t : Text} (h : '\r' ∉ t) {line : Line} (hLine : line ∈ splitLines t) :
    line.ending ≠ .crlf := by
  intro hEnding
  apply h
  rw [← joinLines_splitLines t, joinLines, List.mem_flatMap]
  exact ⟨line, hLine, by simp [Line.text, Ending.text, hEnding]⟩

end Crlf

end ErDiagram
