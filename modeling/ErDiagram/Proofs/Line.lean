import ErDiagram.Line
import ErDiagram.Proofs.Text.Trim

/-!
Splitting a text into lines gives sound lines, and sound lines are what splitting their text gives
back. The one exception is an empty line without an ending, which leaves no trace in the text.
-/

namespace ErDiagram

namespace Line

/-- A line that can stand in a text as it is: no line feed in its body, and in front of a bare line
feed no carriage return that would join it. -/
structure Sound (line : Line) : Prop where
  newline : '\n' ∉ line.body
  carriage : line.ending = .lf → line.body.getLast? ≠ some '\r'

/-- A line that leaves no trace in a text. -/
def vacant : Line := ⟨[], .endOfText⟩

theorem sound_nil (ending : Ending) : Sound ⟨[], ending⟩ := by
  refine ⟨List.not_mem_nil, ?_⟩
  intro _ hLast
  cases hLast

theorem Sound.push {c : Char} {line : Line} (h : line.Sound) (hc : c ≠ '\n') :
    (line.push c).Sound := by
  unfold Line.push
  split
  next => exact sound_nil .crlf
  next hJoin =>
    refine ⟨fun hMem => ?_, fun hEnding hLast => ?_⟩
    · rcases List.mem_cons.mp hMem with rfl | hBody
      · exact hc rfl
      · exact h.newline hBody
    · obtain ⟨body, ending⟩ := line
      obtain rfl : ending = .lf := hEnding
      cases body with
      | nil => exact hJoin ⟨Option.some.inj hLast, rfl⟩
      | cons d body => exact h.carriage rfl (by rwa [List.getLast?_cons_cons] at hLast)

theorem push_ending {c : Char} {line : Line} (h : (line.push c).ending = .endOfText) :
    line.ending = .endOfText := by
  unfold Line.push at h
  split at h
  · cases h
  · exact h

end Line

/-- Sound lines of which only the last lacks a line feed. -/
def SoundLines : List Line → Prop
  | [] => True
  | line :: rest => line.Sound ∧ (line.ending = .endOfText → rest = []) ∧ SoundLines rest

theorem soundLines_splitLines (t : Text) : SoundLines (splitLines t) := by
  induction t with
  | nil => trivial
  | cons c t ih =>
      unfold splitLines
      split
      next =>
        refine ⟨Line.sound_nil .lf, ?_, ih⟩
        intro hEnding
        cases hEnding
      next hc =>
        split
        next =>
          refine ⟨⟨by simpa using Ne.symm hc, ?_⟩, fun _ => rfl, trivial⟩
          intro hEnding
          cases hEnding
        next line more hLines =>
          rw [hLines] at ih
          exact ⟨ih.1.push hc, fun h => ih.2.1 (Line.push_ending h), ih.2.2⟩

theorem SoundLines.sound_of_mem {lines : List Line} (h : SoundLines lines) {line : Line}
    (hLine : line ∈ lines) : line.Sound := by
  induction lines with
  | nil => cases hLine
  | cons first rest ih =>
      obtain ⟨hSound, -, hRest⟩ := h
      rcases List.mem_cons.mp hLine with rfl | hLater
      · exact hSound
      · exact ih hRest hLater

theorem splitLines_cons_of_ne {c : Char} (hc : c ≠ '\n') {t : Text} {line : Line}
    {more : List Line} (h : splitLines t = line :: more) :
    splitLines (c :: t) = line.push c :: more := by
  rw [splitLines, if_neg hc, h]

/-- A leading text without line feeds and carriage returns stands on the first line. -/
theorem exists_body_append {c : Char} {a : Text} (hFeed : '\n' ∉ c :: a) (hReturn : '\r' ∉ c :: a)
    (rest : Text) :
    ∃ line more, splitLines (c :: (a ++ rest)) = line :: more ∧ c :: a <+: line.body := by
  rw [List.mem_cons, not_or] at hFeed hReturn
  induction a generalizing c with
  | nil =>
      cases hLines : splitLines rest with
      | nil =>
          rw [List.nil_append, splitLines, if_neg (Ne.symm hFeed.1), hLines]
          exact ⟨_, [], rfl, List.prefix_rfl⟩
      | cons line more =>
          refine ⟨line.push c, more, splitLines_cons_of_ne (Ne.symm hFeed.1) hLines, ?_⟩
          rw [Line.push, if_neg fun h => hReturn.1 h.1.symm]
          exact ⟨line.body, rfl⟩
  | cons d a ih =>
      have hLater := List.mem_cons.not.mp hFeed.2
      obtain ⟨line, more, hLines, hBody⟩ :=
        ih (not_or.mp hLater) (not_or.mp (List.mem_cons.not.mp hReturn.2))
      refine ⟨line.push c, more, splitLines_cons_of_ne (Ne.symm hFeed.1) hLines, ?_⟩
      rw [Line.push, if_neg fun h => hReturn.1 h.1.symm]
      exact List.cons_prefix_cons.mpr ⟨rfl, hBody⟩

/-- A sound line with a line feed is split off. -/
theorem splitLines_text_append {line : Line} (hSound : line.Sound)
    (hEnding : line.ending ≠ .endOfText) (rest : Text) :
    splitLines (line.text ++ rest) = line :: splitLines rest := by
  obtain ⟨body, ending⟩ := line
  induction body with
  | nil =>
      cases ending with
      | endOfText => exact absurd rfl hEnding
      | lf => rfl
      | crlf => rfl
  | cons c body ih =>
      have hc : c ≠ '\n' := fun h => hSound.newline (h ▸ List.mem_cons_self)
      have hBody : Line.Sound ⟨body, ending⟩ := by
        refine ⟨fun hMem => hSound.newline (List.mem_cons_of_mem _ hMem), fun hLf hLast => ?_⟩
        refine hSound.carriage hLf ?_
        rw [List.getLast?_cons, hLast]
        rfl
      refine (splitLines_cons_of_ne hc (ih hBody hEnding)).trans ?_
      rw [Line.push, if_neg]
      rintro ⟨rfl, hLine⟩
      obtain ⟨rfl, rfl⟩ := Line.mk.inj hLine
      exact hSound.carriage rfl rfl

theorem splitLines_of_no_newline {body : Text} (hNewline : '\n' ∉ body) (hne : body ≠ []) :
    splitLines body = [⟨body, .endOfText⟩] := by
  induction body with
  | nil => exact absurd rfl hne
  | cons c body ih =>
      rw [List.mem_cons, not_or] at hNewline
      have hc : c ≠ '\n' := Ne.symm hNewline.1
      cases body with
      | nil => rw [splitLines, if_neg hc]; rfl
      | cons d body =>
          rw [splitLines_cons_of_ne hc (ih hNewline.2 (by simp)), Line.push, if_neg]
          rintro ⟨-, hLine⟩
          cases hLine

theorem joinLines_cons (line : Line) (rest : List Line) :
    joinLines (line :: rest) = line.text ++ joinLines rest :=
  List.flatMap_cons

theorem joinLines_append_vacant (lines : List Line) :
    joinLines (lines ++ [Line.vacant]) = joinLines lines := by
  rw [joinLines, List.flatMap_append]
  exact List.append_nil _

/-- Splitting undoes joining, apart from a last line that leaves no trace. -/
theorem splitLines_joinLines {lines : List Line} (h : SoundLines lines) :
    ∃ dropped, lines = splitLines (joinLines lines) ++ dropped ∧
      (dropped = [] ∨ dropped = [Line.vacant]) := by
  induction lines with
  | nil => exact ⟨[], rfl, Or.inl rfl⟩
  | cons line rest ih =>
      obtain ⟨hSound, hLast, hRest⟩ := h
      by_cases hEnding : line.ending = .endOfText
      · obtain rfl := hLast hEnding
        obtain ⟨body, ending⟩ := line
        obtain rfl : ending = .endOfText := hEnding
        have hJoin : joinLines [⟨body, .endOfText⟩] = body := by
          simp [joinLines, Line.text, Ending.text]
        rw [hJoin]
        by_cases hBody : body = []
        · exact ⟨[Line.vacant], by rw [hBody]; rfl, Or.inr rfl⟩
        · exact ⟨[], by rw [splitLines_of_no_newline hSound.newline hBody]; rfl, Or.inl rfl⟩
      · obtain ⟨dropped, hDropped, hVacant⟩ := ih hRest
        refine ⟨dropped, ?_, hVacant⟩
        rw [joinLines_cons, splitLines_text_append hSound hEnding, List.cons_append, ← hDropped]

theorem vacant_notMem_splitLines (t : Text) : Line.vacant ∉ splitLines t := by
  have hPush (c : Char) (line : Line) : line.push c ≠ Line.vacant := by
    intro hVacant
    have hText := Line.text_push c line
    rw [hVacant] at hText
    cases hText
  induction t with
  | nil => exact List.not_mem_nil
  | cons c t ih =>
      intro hMem
      unfold splitLines at hMem
      split at hMem
      next =>
        rcases List.mem_cons.mp hMem with hFeed | hLater
        · cases hFeed
        · exact ih hLater
      next =>
        split at hMem
        next => cases List.mem_singleton.mp hMem
        next line more hLines =>
          rcases List.mem_cons.mp hMem with hHere | hLater
          · exact hPush c line hHere.symm
          · exact ih (hLines ▸ List.mem_cons_of_mem _ hLater)

/-- Splitting undoes joining where every line leaves a trace. -/
theorem splitLines_joinLines_of_notMem {lines : List Line} (h : SoundLines lines)
    (hVacant : Line.vacant ∉ lines) : splitLines (joinLines lines) = lines := by
  obtain ⟨dropped, hLines, rfl | rfl⟩ := splitLines_joinLines h
  · rw [List.append_nil] at hLines
    exact hLines.symm
  · rw [hLines] at hVacant
    exact absurd (by simp) hVacant

/-- Only the last of sound lines lacks a line feed. -/
theorem soundLines_iff {lines : List Line} :
    SoundLines lines ↔ (∀ line ∈ lines, line.Sound) ∧
      ∀ front line back, lines = front ++ line :: back → line.ending = .endOfText → back = [] := by
  induction lines with
  | nil => exact iff_of_true trivial ⟨nofun, fun front _ _ hLines => by cases front <;> cases hLines⟩
  | cons first rest ih =>
      rw [SoundLines, ih, List.forall_mem_cons]
      constructor
      · rintro ⟨hFirst, hLast, hRest, hLater⟩
        refine ⟨⟨hFirst, hRest⟩, fun front line back hLines hEnding => ?_⟩
        cases front with
        | nil =>
            obtain ⟨rfl, rfl⟩ := List.cons.inj hLines
            exact hLast hEnding
        | cons other front =>
            exact hLater front line back (List.cons.inj hLines).2 hEnding
      · rintro ⟨⟨hFirst, hRest⟩, hLast⟩
        refine ⟨hFirst, hLast [] first rest rfl, hRest, fun front line back hLines => ?_⟩
        exact hLast (first :: front) line back (congrArg (first :: ·) hLines)

/-- Lines that stay apart when they are joined. No body has a line feed, and none in front of a bare line
feed ends in a carriage return. Only the last line can lack an ending, and then it is not empty. -/
structure Separable (lines : List Line) : Prop where
  newline : ∀ line ∈ lines, '\n' ∉ line.body
  carriage : ∀ line ∈ lines, line.ending = .lf → line.body.getLast? ≠ some '\r'
  last : ∀ front line back, lines = front ++ line :: back → line.ending = .endOfText → back = []
  nonempty : ∀ line ∈ lines, line.ending = .endOfText → line.body ≠ []

theorem separable_iff {lines : List Line} :
    Separable lines ↔ SoundLines lines ∧ Line.vacant ∉ lines := by
  rw [soundLines_iff]
  constructor
  · intro h
    exact ⟨⟨fun line hLine => ⟨h.newline line hLine, h.carriage line hLine⟩, h.last⟩,
      fun hVacant => h.nonempty Line.vacant hVacant rfl rfl⟩
  · rintro ⟨⟨hSound, hLast⟩, hVacant⟩
    refine {
      newline := fun line hLine => (hSound line hLine).newline
      carriage := fun line hLine => (hSound line hLine).carriage
      last := hLast
      nonempty := ?_ }
    rintro ⟨body, ending⟩ hLine rfl rfl
    exact hVacant hLine

/-- Splitting and joining are inverse to each other: the lines of a text are separable and make it up,
and no other separable lines do. -/
theorem splitLines_eq_iff {t : Text} {lines : List Line} :
    splitLines t = lines ↔ t = joinLines lines ∧ Separable lines := by
  rw [separable_iff]
  constructor
  · rintro rfl
    exact ⟨(joinLines_splitLines t).symm, soundLines_splitLines t, vacant_notMem_splitLines t⟩
  · rintro ⟨rfl, hSound, hVacant⟩
    exact splitLines_joinLines_of_notMem hSound hVacant

example : splitLines "a\r\r\n\nb\r".toList =
    [⟨"a\r".toList, .crlf⟩, ⟨[], .lf⟩, ⟨"b\r".toList, .endOfText⟩] := by decide

/-- Sound lines stay so when a sound line with the same ending takes the place of one. -/
theorem SoundLines.replace {front back : List Line} {old new : Line}
    (h : SoundLines (front ++ old :: back)) (hSound : new.Sound) (hEnding : new.ending = old.ending) :
    SoundLines (front ++ new :: back) := by
  induction front with
  | nil =>
      obtain ⟨-, hLast, hRest⟩ := h
      exact ⟨hSound, fun hEnd => hLast (hEnding ▸ hEnd), hRest⟩
  | cons first front ih =>
      obtain ⟨hFirst, hLast, hRest⟩ := h
      refine ⟨hFirst, fun hEnd => ?_, ih hRest⟩
      cases front with
      | nil => cases hLast hEnd
      | cons second front => cases hLast hEnd

/-- A text without a line feed, together with the ending behind it, is one line. A carriage return at
its end goes over to the ending. -/
theorem exists_line_of_body {body : Text} {ending : Ending} (hNewline : '\n' ∉ body)
    (hEnding : ending ≠ .endOfText) :
    ∃ line : Line, splitLines (Line.text ⟨body, ending⟩) = [line] ∧
      (body = line.body ∨ body = line.body ++ ['\r']) := by
  have hAlone {line : Line} (hSound : line.Sound) (hEnding : line.ending ≠ .endOfText) :
      splitLines line.text = [line] := by
    rw [← List.append_nil line.text, splitLines_text_append hSound hEnding]
    rfl
  by_cases hCarriage : ending = .lf ∧ body.getLast? = some '\r'
  · obtain ⟨rfl, hLast⟩ := hCarriage
    obtain ⟨front, rfl⟩ := List.getLast?_eq_some_iff.mp hLast
    have hText : Line.text ⟨front, .crlf⟩ = Line.text ⟨front ++ ['\r'], .lf⟩ :=
      (List.append_assoc front ['\r'] ['\n']).symm
    refine ⟨⟨front, .crlf⟩, ?_, Or.inr rfl⟩
    rw [← hText]
    exact hAlone ⟨fun hMem => hNewline (List.mem_append_left _ hMem), nofun⟩ nofun
  · have hSound : Line.Sound ⟨body, ending⟩ := ⟨hNewline, fun hLf hLast => hCarriage ⟨hLf, hLast⟩⟩
    exact ⟨⟨body, ending⟩, hAlone hSound hEnding, Or.inl rfl⟩

/-- A line is its indentation and a content that starts with no blank. -/
theorem splitIndent_append {indent content : Text} (hIndent : indent.isAllBlank)
    (hContent : ∀ c, content.head? = some c → isBlank c = false) :
    splitIndent (indent ++ content) = (indent, content) := by
  have hStart : content.takeWhile isBlank = [] ∧ content.dropWhile isBlank = content := by
    cases content with
    | nil => exact ⟨rfl, rfl⟩
    | cons c content => simp [hContent c rfl]
  rw [Text.isAllBlank_iff] at hIndent
  rw [splitIndent, List.takeWhile_append_of_pos hIndent, List.dropWhile_append_of_pos hIndent,
    hStart.1, hStart.2, List.append_nil]

theorem splitIndent_spec (body : Text) :
    body = (splitIndent body).1 ++ (splitIndent body).2 ∧ (splitIndent body).1.isAllBlank ∧
      ∀ c, (splitIndent body).2.head? = some c → isBlank c = false := by
  refine ⟨List.takeWhile_append_dropWhile.symm, ?_, fun c hc => Text.head_trimStart hc⟩
  exact Text.isAllBlank_iff.mpr fun c hc => List.mem_takeWhile_imp hc

end ErDiagram
