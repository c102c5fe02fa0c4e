import ErDiagram.Proofs.Repair.Run

/-!
Comments behind the code of a line. Whatever such a comment says, the line is read as the same thing
without it and leaves the same state, so two runs over a text with the comment and without it differ in
this one line only.
-/

namespace ErDiagram

/-- A comment behind the code of a line: a gap, and any words behind the marker. -/
structure TrailingComment where
  gap : Text
  words : Text
  gap_ne_nil : gap ≠ []
  isAllGap : isAllGap gap = true
  newline : '\n' ∉ words
  carriage : '\r' ∉ words

/-- What of a line can have a comment behind it: it is no directive, has no comment of its own and has
closed its quotes. -/
structure Text.Commentable (g : Grammar) (content : Text) : Prop where
  tight : Tight content
  directive : g.isDirective content = false
  comment : ¬ Comment.Occurs g.commentMarker content
  quotes : content.count '"' % 2 = 0

namespace TrailingComment

/-- The comment as a grammar writes it. -/
def text (a : TrailingComment) (g : Grammar) : Text :=
  a.gap ++ (g.commentMarker ++ a.words)

theorem isAllBlank (a : TrailingComment) : a.gap.isAllBlank = true :=
  isAllBlank_of_isAllGap a.isAllGap

theorem head_text (a : TrailingComment) (g : Grammar) :
    ∃ c, (a.text g).head? = some c ∧ isBlank c = true := by
  have hHead := List.head?_eq_some_head a.gap_ne_nil
  refine ⟨_, ?_, Text.isAllBlank_iff.mp a.isAllBlank _ (List.head_mem a.gap_ne_nil)⟩
  rw [text, List.head?_append, hHead, Option.some_or]

theorem text_ne_nil (a : TrailingComment) (g : Grammar) : a.text g ≠ [] := by
  simp [text, a.gap_ne_nil]

/-- A blank that separates no tokens can only stand in the words. -/
theorem not_mem_text {g : Grammar} (hg : g.WellFormed) (a : TrailingComment) {c : Char}
    (hBlank : isBlank c = true) (hGap : isGap c = false) (hWords : c ∉ a.words) : c ∉ a.text g := by
  have hInGap : c ∉ a.gap := fun hMem => by
    rw [List.all_eq_true.mp a.isAllGap c hMem] at hGap
    cases hGap
  have hInMarker := Text.not_mem_of_hasBlank hg.commentMarker.hasBlank hBlank
  simp [text, hInGap, hInMarker, hWords]

end TrailingComment

section Reading

variable {g : Grammar} {content : Text}

theorem Text.Commentable.find?_eq_none (hMarker : ∃ c, g.commentMarker.head? = some c ∧ c ≠ '"')
    (h : content.Commentable g) : Comment.find? g.commentMarker content = none := by
  rw [← Option.isNone_iff_eq_none, ← Option.isSome_eq_false_iff, Bool.eq_false_iff, ne_eq,
    Comment.find?_isSome_iff hMarker]
  exact h.comment

/-- A comment goes from the line together with the gap in front of it. -/
theorem Comment.strip_trailingComment (hg : g.WellFormed)
    (hMarker : ∃ c, g.commentMarker.head? = some c ∧ c ≠ '"') (h : content.Commentable g)
    (a : TrailingComment) : strip g.commentMarker (content ++ a.text g) = content := by
  have hStrip := strip_append_marker hMarker hg.commentMarker.hasBlank a.isAllBlank a.gap_ne_nil
    (h.find?_eq_none hMarker) h.quotes a.words
  exact hStrip.trans h.tight.trimEnd_eq

/-- All that a comment changes in what is read of a line is that there is one. -/
theorem readLine_trailingComment (hg : g.WellFormed)
    (hMarker : ∃ c, g.commentMarker.head? = some c ∧ c ≠ '"') (h : content.Commentable g)
    (a : TrailingComment) (state : BlockState) :
    readLine g state (content ++ a.text g) =
        { readLine g state content with hasComment := true } ∧
      (readLine g state content).hasComment = false ∧
      state.after g (content ++ a.text g) = state.after g content := by
  have hDirective := hg.isDirective_append (a.head_text g) h.directive
  have hOld := Comment.strip_eq_self (h.find?_eq_none hMarker)
  have hNew := Comment.strip_trailingComment hg hMarker h a
  have hPos := Text.size_pos_of_ne_nil (a.text_ne_nil g)
  have hReading : readLine g state (content ++ a.text g) =
      { readLine g state content with hasComment := true } := by
    rw [readLine_of_not_directive hDirective, readLine_of_not_directive h.directive, hOld, hNew]
    simp [hPos]
  refine ⟨hReading, ?_, ?_⟩
  · rw [readLine_of_not_directive h.directive, hOld]
    simp
  · rw [BlockState.after, BlockState.after, code_of_not_directive hDirective,
      code_of_not_directive h.directive, hOld, hNew, hReading]

end Reading

/-- A line with a text behind its body. -/
def Line.append (line : Line) (t : Text) : Line :=
  ⟨line.body ++ t, line.ending⟩

namespace Line

variable {g : Grammar} {line : Line}

theorem splitIndent_append (h : Text.Tight line.content) (t : Text) :
    splitIndent (line.append t).body = ((splitIndent line.body).1, line.content ++ t) := by
  obtain ⟨hBody, hIndent, -⟩ := splitIndent_spec line.body
  have hSplit := ErDiagram.splitIndent_append hIndent (h.head_append t)
  rwa [content, ← List.append_assoc, ← hBody] at hSplit

theorem content_append (h : Text.Tight line.content) (t : Text) :
    (line.append t).content = line.content ++ t :=
  congrArg Prod.snd (splitIndent_append h t)

theorem Sound.append (hg : g.WellFormed) (h : line.Sound) (a : TrailingComment) :
    (line.append (a.text g)).Sound := by
  refine ⟨fun hMem => ?_, fun _ hLast => ?_⟩
  · rcases List.mem_append.mp hMem with hOld | hNew
    · exact h.newline hOld
    · exact a.not_mem_text hg rfl rfl a.newline hNew
  · rw [Line.append, List.getLast?_append_of_ne_nil _ (a.text_ne_nil g)] at hLast
    exact a.not_mem_text hg rfl rfl a.carriage (List.mem_of_getLast? hLast)

end Line

namespace Repair

variable {g : Grammar} {line : Line}

/-- A step on a line with a comment leaves the state and the body that it leaves without the comment.
Only a line that is never changed keeps the comment. -/
theorem step_trailingComment (hg : g.WellFormed)
    (hMarker : ∃ c, g.commentMarker.head? = some c ∧ c ≠ '"') (h : line.content.Commentable g)
    (a : TrailingComment) (state : BlockState) :
    (Step.of g state (line.append (a.text g))).after = (Step.of g state line).after ∧
      (Step.of g state (line.append (a.text g))).body =
        if (readLine g state line.content).kind.isPassThrough then (line.append (a.text g)).body
        else (Step.of g state line).body := by
  obtain ⟨hReading, hNone, hAfter⟩ := readLine_trailingComment hg hMarker h a state
  have hContent := Line.content_append h.tight (a.text g)
  rw [← hContent] at hReading hAfter
  refine ⟨hAfter, ?_⟩
  cases hPass : (readLine g state line.content).kind.isPassThrough with
  | true =>
      rw [if_pos rfl]
      exact newBody_of_passThrough (by rw [← Line.content, hReading]; exact hPass)
  | false =>
      rw [if_neg Bool.false_ne_true]
      have hPass' : (readLine g state (line.append (a.text g)).content).kind.isPassThrough = false := by
        rw [hReading]
        exact hPass
      obtain ⟨new, rfl, hEdges, -, hBody⟩ := exists_newCode hPass
      obtain ⟨new', hNew', -, -, hBody'⟩ := exists_newCode hPass'
      have hCode : (readLine g state line.content).code line.content = line.content := by
        rw [code_of_not_directive h.directive, Comment.strip_eq_self (h.find?_eq_none hMarker)]
      have hCode' : (readLine g state (line.append (a.text g)).content).code
          (line.append (a.text g)).content = line.content := by
        rw [hContent, code_of_not_directive (hg.isDirective_append (a.head_text g) h.directive),
          Comment.strip_trailingComment hg hMarker h a]
      rw [hCode', hReading] at hNew'
      rw [hNew', Line.splitIndent_append h.tight, hReading, if_pos rfl] at hBody'
      rw [hCode] at hBody hEdges
      rw [hNone, if_neg Bool.false_ne_true] at hBody
      -- The whole new line is trimmed where a comment went, but the new code ends as tightly as the old.
      have hTrim := hEdges.trimEnd_append h.tight.trimEnd_eq (hEdges.ne_nil h.tight.ne_nil)
      exact (hBody'.trans (hTrim _)).trans hBody.symm

end Repair

/-- A comment behind the code of a line, whatever its words, leaves what is read of the line and the
state behind it. So of the runs over a text with the comment and without it all other steps are the
same, and the step on the line leaves the same body, unless the line is never changed: then it keeps its
comment. -/
theorem repairRun_trailingComment {g : Grammar} (hg : g.ExtendsMermaid) {content : Text}
    (h : content.Commentable g) :
    (∀ (a : TrailingComment) (state : BlockState),
      readLine g state (content ++ a.text g) =
          { readLine g state content with hasComment := true } ∧
        (readLine g state content).hasComment = false ∧
        state.after g (content ++ a.text g) = state.after g content) ∧
    ∀ (t : Text) (front : List Line) (line : Line) (back : List Line),
      splitLines t = front ++ line :: back → line.content = content →
        ∃ before step behind, repairRun g t = before ++ step :: behind ∧
          before.length = front.length ∧ step.line = line ∧
          ∀ a : TrailingComment, ∃ step',
            repairRun g (joinLines (front ++ line.append (a.text g) :: back)) =
              before ++ step' :: behind ∧
            step'.line = line.append (a.text g) ∧
            step'.body = if step.reading.kind.isPassThrough then step'.line.body else step.body := by
  have hWell := hg.isMermaid.wellFormed
  have hMarker : ∃ c, g.commentMarker.head? = some c ∧ c ≠ '"' := by
    rw [hg.isMermaid.commentMarker]
    exact ⟨'/', rfl, by decide⟩
  refine ⟨fun a state => readLine_trailingComment hWell hMarker h a state, ?_⟩
  rintro t front line back hLines rfl
  have hSound : SoundLines (front ++ line :: back) := hLines ▸ soundLines_splitLines t
  have hVacant : Line.vacant ∉ front ++ line :: back := hLines ▸ vacant_notMem_splitLines t
  generalize hState : Repair.finalState g .outside front = state
  refine ⟨Repair.steps g .outside front, Step.of g state line,
    Repair.steps g (Step.of g state line).after back, ?_, ?_, rfl, fun a => ?_⟩
  · rw [repairRun, hLines, Repair.steps_append, hState, Repair.steps_cons]
  · rw [← List.length_map Step.line, Repair.map_line_steps]
  · obtain ⟨hAfter, hBody⟩ := Repair.step_trailingComment hWell hMarker h a state
    have hNewSound := hSound.replace
      ((hSound.sound_of_mem (by simp)).append hWell a) rfl
    have hNewVacant : Line.vacant ∉ front ++ line.append (a.text g) :: back := by
      rw [List.mem_append, List.mem_cons, not_or, not_or] at hVacant ⊢
      refine ⟨hVacant.1, fun hSame => ?_, hVacant.2.2⟩
      exact a.text_ne_nil g (List.append_eq_nil_iff.mp (congrArg Line.body hSame).symm).2
    refine ⟨Step.of g state (line.append (a.text g)), ?_, rfl, hBody⟩
    rw [repairRun, splitLines_joinLines_of_notMem hNewSound hNewVacant, Repair.steps_append, hState,
      Repair.steps_cons, hAfter]

theorem repairRun_trailingComment_withNotNull :
    let g := Grammar.withNotNull
    let t := "A-B \x7b\n int a b NN \"//\"\r\n\x7d".toList
    let content : Text := "int a b NN \"//\"".toList
    let line : Line := ⟨" int a b NN \"//\"".toList, .crlf⟩
    let front : List Line := [⟨"A-B \x7b".toList, .lf⟩]
    let back : List Line := [⟨"\x7d".toList, .endOfText⟩]
    let a : TrailingComment :=
      ⟨"\t ".toList, "\x7d ||--|| \" %%".toList, by decide, by decide, by decide, by decide⟩
    g.ExtendsMermaid ∧ content.Commentable g ∧ splitLines t = front ++ line :: back ∧
      line.content = content ∧
      (readLine g (.inside "A-B".toList) (content ++ a.text g)).kind =
        (readLine g (.inside "A-B".toList) content).kind ∧
      ∃ before step behind, repairRun g t = before ++ step :: behind ∧ step.line = line ∧
        ∃ step', repairRun g (joinLines (front ++ line.append (a.text g) :: back)) =
            before ++ step' :: behind ∧
          step'.line = line.append (a.text g) ∧
          step'.body =
            if step.reading.kind.isPassThrough then step'.line.body else step.body := by
  intro g t content line front back a
  have hg : g.ExtendsMermaid := Grammar.extendsMermaid_withNotNull
  have hContent : content.Commentable g := by
    refine ⟨⟨⟨'i', rfl, rfl⟩, ⟨'"', by decide, rfl⟩⟩, by decide, ?_, by decide⟩
    rw [← Comment.find?_isSome_iff ⟨'/', rfl, by decide⟩]
    decide
  have hLines : splitLines t = front ++ line :: back := by decide +kernel
  have hLine : line.content = content := by decide
  obtain ⟨hReadings, hRuns⟩ := repairRun_trailingComment hg hContent
  obtain ⟨before, step, behind, hRun, -, hStep, hCommented⟩ := hRuns t front line back hLines hLine
  have hKind : (readLine g (.inside "A-B".toList) (content ++ a.text g)).kind =
      (readLine g (.inside "A-B".toList) content).kind := by
    rw [(hReadings a _).1]
  exact ⟨hg, hContent, hLines, hLine, hKind, before, step, behind, hRun, hStep, hCommented a⟩

end ErDiagram
