import ErDiagram.Proofs.Document.Attribute
import ErDiagram.Proofs.Repair.Transparent

/-!
The repair of a whole document. Every line of it is read in the state in which the document has it, and
becomes the line that the document says.
-/

namespace ErDiagram

namespace Document

namespace Code

variable (code : Code)

theorem tight : Text.Tight code.text := by
  cases code with
  | entityHeader name gap => exact name.tight.append (.of_hasBlank (List.cons_ne_nil _ _) rfl) gap.text
  | entityFooter => exact .of_hasBlank (List.cons_ne_nil _ _) rfl
  | entityAttribute a => exact a.tight
  | relationship r => exact r.tight

theorem quiet : Quiet code.text := by
  cases code with
  | entityHeader name gap =>
      exact (Quiet.of_plain (name.plain.append gap.plain)).append (.of_not_mem (by decide) (by decide))
  | entityFooter => exact .of_not_mem (by decide) (by decide)
  | entityAttribute a => exact a.quiet
  | relationship r => exact r.quiet

theorem newline : '\n' ∉ code.text := by
  cases code with
  | entityHeader name gap =>
      have hName : '\n' ∉ name.text := name.plain.not_mem rfl
      have hGap : '\n' ∉ gap.text := gap.plain.not_mem rfl
      simp [text, hName, hGap]
  | entityFooter => decide
  | entityAttribute a => exact a.newline
  | relationship r => exact r.newline

/-- No line of code looks like a directive. -/
theorem not_directive (behind : Text) : Grammar.mermaid.isDirective (code.text ++ behind) = false := by
  have hHead : ∃ c rest, code.text = c :: rest ∧ c ≠ '%' := by
    have hPlain {word : Text} (hne : word ≠ []) (h : Plain word) (after : Text) :
        ∃ c rest, word ++ after = c :: rest ∧ c ≠ '%' := by
      obtain ⟨c, rest, rfl⟩ := List.exists_cons_of_ne_nil hne
      refine ⟨c, rest ++ after, rfl, ?_⟩
      rintro rfl
      exact h.not_mem rfl List.mem_cons_self
    cases code with
    | entityHeader name gap =>
        rw [text, List.append_assoc]
        exact hPlain name.ne_nil name.plain _
    | entityFooter => exact ⟨_, [], rfl, by decide⟩
    | entityAttribute a =>
        rw [text, a.text_eq]
        exact hPlain a.dataType.ne_nil a.dataType.plain _
    | relationship r =>
        rw [text, Relationship.text]
        simp only [List.append_assoc]
        exact hPlain r.left.ne_nil r.left.plain _
  obtain ⟨c, rest, hText, hc⟩ := hHead
  have hDiffers : ('%' == c) = false := beq_eq_false_iff_ne.mpr (Ne.symm hc)
  change ['%', '%'].isPrefixOf (code.text ++ behind) = false
  rw [hText, List.cons_append, List.isPrefixOf, hDiffers, Bool.false_and]

theorem exists_treated (trail : Space) {inside : Bool} (hFits : code.fits inside = true) :
    ∃ kind, code.Treated inside trail kind := by
  cases code with
  | entityHeader name gap => exact ⟨_, treated_header name gap trail inside⟩
  | entityFooter =>
      obtain rfl : inside = true := hFits
      exact ⟨_, treated_footer trail⟩
  | entityAttribute a =>
      obtain rfl : inside = true := hFits
      exact ⟨_, a.treated trail⟩
  | relationship r => exact ⟨_, r.treated trail inside⟩

/-- Without a gap behind it the repaired code ends tightly, as the code does. -/
theorem Treated.trimEnd_repaired {code : Code} {inside : Bool} {trail : Space} {kind : LineKind}
    (h : code.Treated inside trail kind) (hTrail : trail.text = []) (indent : Text) :
    Text.trimEnd (indent ++ code.repaired) = indent ++ code.repaired := by
  have hKind := Reading.kindOf_eq_of_reads h.reads
  have hEdges := Repair.keepsEdges_newCode
    (hKind ▸ Repair.laid_kindOf Grammar.mermaid inside (code.text ++ trail.text))
    (code.tight.head_append trail.text)
  rw [h.newCode, hTrail, List.append_nil, List.append_nil] at hEdges
  exact hEdges.trimEnd_append code.tight.trimEnd_eq (hEdges.ne_nil code.tight.ne_nil) indent

end Code

/-- A comment shortens the line when it goes. -/
theorem size_kept_lt_iff (code : Text) (tail : Tail) :
    (code ++ tail.kept.text).size < (code ++ tail.text).size ↔ tail.comment?.isSome = true := by
  obtain ⟨gap, _ | comment⟩ := tail
  · simp [Tail.kept, Tail.text]
  · have hPos := Char.utf8Size_pos '/'
    simp [Tail.kept, Tail.text]
    omega

section Step

variable {state : BlockState}

theorem content_line {indent : Space} {content : Text} {ending : Ending}
    (hHead : ∀ c, content.head? = some c → isBlank c = false) :
    Line.content ⟨indent.text ++ content, ending⟩ = content :=
  congrArg Prod.snd (splitIndent_append indent.isAllBlank hHead)

/-- How a line of code is read. -/
theorem reading_code {code : Code} {tail : Tail} {kind : LineKind}
    (h : code.Treated state.isInside tail.kept kind) :
    readLine Grammar.mermaid state (code.text ++ tail.text) =
      ⟨kind, (code.text ++ tail.kept.text).size, tail.comment?.isSome⟩ := by
  have hStrip : Comment.strip Grammar.mermaid.commentMarker (code.text ++ tail.text) =
      code.text ++ tail.kept.text := code.quiet.strip_tail code.tight tail
  have hKind := Reading.kindOf_eq_of_reads h.reads
  rw [readLine_of_not_directive (code.not_directive tail.text), hStrip]
  simp only [hKind, size_kept_lt_iff, Bool.decide_eq_true]

theorem code_reading (code : Code) (tail : Tail) :
    (readLine Grammar.mermaid state (code.text ++ tail.text)).code (code.text ++ tail.text) =
      code.text ++ tail.kept.text := by
  rw [code_of_not_directive (code.not_directive tail.text)]
  exact code.quiet.strip_tail code.tight tail

/-- A line of code becomes what the document says, counts what the document says, and leaves the block
open or closed as the document says. -/
theorem step_code (indent : Space) {code : Code} (tail : Tail) (ending : Ending)
    (hFits : code.fits state.isInside = true) :
    let step := Step.of Grammar.mermaid state ⟨indent.text ++ (code.text ++ tail.text), ending⟩
    step.newLine = ⟨indent.text ++ (code.repaired ++ tail.kept.text), ending⟩ ∧
      step.tally = code.repairs + tail.repairs ∧
      step.after.isInside = code.leavesInside state.isInside := by
  obtain ⟨kind, hTreated⟩ := code.exists_treated tail.kept hFits
  have hReading := reading_code hTreated
  have hCode := @code_reading state code tail
  have hSplit := splitIndent_append indent.isAllBlank (code.tight.head_append tail.text)
  rw [hReading] at hCode
  refine ⟨?_, ?_, ?_⟩
  · refine congrArg (Line.mk · ending) ?_
    have hBody := @Repair.newBody_eq Grammar.mermaid (indent.text ++ (code.text ++ tail.text))
      (readLine Grammar.mermaid state (code.text ++ tail.text)) (by rw [hReading]; exact hTreated.changes)
    simp only [hSplit] at hBody
    simp only [Step.of, hSplit]
    rw [hBody, hReading, hCode, hTreated.newCode]
    cases hComment : tail.comment?.isSome with
    | true =>
        have hKept : tail.kept.text = [] := by rw [Tail.kept, if_pos hComment]
        rw [if_pos rfl, hKept, List.append_nil]
        exact hTreated.trimEnd_repaired hKept indent.text
    | false => rfl
  · simp only [Step.tally, Step.of, hSplit, Repair.decisions, hReading, hCode]
    rw [List.map_append, Tally.sum_append, hTreated.tally, hTreated.changes, Tail.repairs]
    cases tail.comment?.isSome with
    | true => rfl
    | false => rfl
  · simp only [Step.of, hSplit, hReading, hCode]
    exact hTreated.after state rfl

theorem step_keyword (indent : Space) (ending : Ending) :
    let step := Step.of Grammar.mermaid .outside ⟨indent.text ++ Item.keyword.text, ending⟩
    step.newLine = ⟨indent.text ++ Item.keyword.text, ending⟩ ∧ step.tally = {} ∧
      step.after = .outside := by
  have hReading : readLine Grammar.mermaid .outside Item.keyword.text = ⟨.other, 9, false⟩ := by
    decide +kernel
  have hContent : Line.content ⟨indent.text ++ Item.keyword.text, ending⟩ = Item.keyword.text := by
    apply content_line
    intro c hc
    obtain rfl := Option.some.inj hc
    rfl
  exact Repair.step_idle (hContent ▸ hReading) (Or.inl rfl)

theorem transparent_directive (indent : Space) (rest : RestOfLine) :
    Grammar.mermaid.Transparent (indent.text ++ (Item.directive rest).text) := by
  refine Or.inr ?_
  rw [splitIndent_append indent.isAllBlank]
  · rfl
  · intro c hc
    obtain rfl := Option.some.inj hc
    rfl

/-- A line of a document in its place becomes what the document says. -/
theorem step_row (state : BlockState) (row : Row) (hFits : row.item.fits state.isInside = true) :
    let step := Step.of Grammar.mermaid state row.line
    step.newLine = row.repaired ∧ step.tally = row.item.repairs ∧
      step.after.isInside = row.item.leavesInside state.isInside := by
  obtain ⟨indent, item, ending, hCarriage⟩ := row
  have hIdle {line : Line}
      (h : let step := Step.of Grammar.mermaid state line
        step.newLine = line ∧ step.tally = {} ∧ step.after = state) :
      let step := Step.of Grammar.mermaid state line
      step.newLine = line ∧ step.tally = {} ∧ step.after.isInside = state.isInside :=
    h.imp_right fun hRest => hRest.imp_right (congrArg BlockState.isInside)
  cases item with
  | keyword =>
      cases state with
      | outside => exact hIdle (step_keyword indent ending)
      | inside entity => cases hFits
  | blank =>
      have hBlank : (indent.text ++ Item.blank.text).isAllBlank = true := by
        rw [Text.isAllBlank_append, indent.isAllBlank]
        rfl
      exact hIdle (Repair.step_transparent (Or.inl hBlank) state)
  | directive rest =>
      exact hIdle (Repair.step_transparent (transparent_directive indent rest) state)
  | code body tail => exact step_code indent tail ending hFits

end Step

/-- A run over the lines of a document makes the lines that the document says. -/
theorem steps_rows (state : BlockState) {rows : List Row} (h : Placed state.isInside rows) :
    let steps := Repair.steps Grammar.mermaid state (rows.map Row.line)
    steps.map Step.newLine = rows.map Row.repaired ∧
      Tally.sum (steps.map Step.tally) = Tally.sum (rows.map fun row => row.item.repairs) := by
  induction rows generalizing state with
  | nil => exact ⟨rfl, rfl⟩
  | cons row rest ih =>
      obtain ⟨hFits, -, hRest⟩ := h
      obtain ⟨hLine, hTally, hAfter⟩ := step_row state row hFits
      rw [← hAfter] at hRest
      obtain ⟨hLines, hTallies⟩ := ih _ hRest
      constructor
      · rw [List.map_cons, Repair.steps_cons, List.map_cons, hLine, hLines, List.map_cons]
      · rw [List.map_cons, Repair.steps_cons, List.map_cons, Tally.sum, hTally, hTallies,
          List.map_cons, Tally.sum]

theorem Tail.newline (tail : Tail) : '\n' ∉ tail.text := by
  have hGap : '\n' ∉ tail.gap.text := tail.gap.plain.not_mem rfl
  cases hComment : tail.comment? with
  | none => simp [Tail.text, hComment, hGap]
  | some comment => simp [Tail.text, hComment, hGap, comment.newline]

theorem Item.newline (item : Item) : '\n' ∉ item.text := by
  cases item with
  | keyword => decide
  | blank => exact List.not_mem_nil
  | directive rest =>
      change '\n' ∉ ['%', '%'] ++ rest.text
      rw [List.mem_append]
      exact not_or.mpr ⟨by decide, rest.newline⟩
  | code body tail =>
      change '\n' ∉ body.text ++ tail.text
      rw [List.mem_append]
      exact not_or.mpr ⟨body.newline, tail.newline⟩

theorem Row.sound (row : Row) : row.line.Sound := by
  have hNewline : '\n' ∉ row.indent.text := row.indent.plain.not_mem rfl
  have hCarriage : '\r' ∉ row.indent.text := row.indent.plain.not_mem rfl
  refine ⟨?_, fun hEnding hLast => ?_⟩
  · change '\n' ∉ row.indent.text ++ row.item.text
    rw [List.mem_append]
    exact not_or.mpr ⟨hNewline, row.item.newline⟩
  · change (row.indent.text ++ row.item.text).getLast? = some '\r' at hLast
    rw [List.getLast?_append] at hLast
    cases hItem : row.item.text.getLast? with
    | none =>
        rw [hItem, Option.none_or] at hLast
        exact hCarriage (List.mem_of_getLast? hLast)
    | some c =>
        rw [hItem, Option.some_or] at hLast
        exact row.carriage hEnding (hItem.trans hLast)

theorem soundLines_rows {inside : Bool} {rows : List Row} (h : Placed inside rows) :
    SoundLines (rows.map Row.line) := by
  induction rows generalizing inside with
  | nil => trivial
  | cons row rest ih =>
      obtain ⟨-, hLast, hRest⟩ := h
      refine ⟨row.sound, fun hEnding => ?_, ih hRest⟩
      rw [hLast hEnding]
      rfl

end Document

namespace Repair

/-- A run over a text made of sound lines is a run over these lines. -/
theorem run_joinLines {lines : List Line} (h : SoundLines lines) :
    let run := steps Grammar.mermaid .outside lines
    normalize Grammar.mermaid (joinLines lines) = joinLines (run.map Step.newLine) ∧
      (repairReport Grammar.mermaid (joinLines lines)).changedLines = changedFrom 1 run ∧
      (repairReport Grammar.mermaid (joinLines lines)).tally = Tally.sum (run.map Step.tally) := by
  obtain ⟨dropped, hLines, rfl | rfl⟩ := splitLines_joinLines h
  · rw [List.append_nil] at hLines
    rw [normalize, repairReport, repairRun, ← hLines]
    exact ⟨rfl, rfl, rfl⟩
  · -- The last line leaves no trace in the text, and a run does nothing to it.
    obtain ⟨last, hRun, hLine, hTally, hSame⟩ : ∃ last : Step,
        steps Grammar.mermaid .outside lines =
          repairRun Grammar.mermaid (joinLines lines) ++ [last] ∧
        last.newLine = Line.vacant ∧ last.tally = {} ∧ last.isChanged = false := by
      obtain ⟨hLine, hTally, -⟩ := @step_transparent Grammar.mermaid Line.vacant (Or.inl rfl)
        (finalState Grammar.mermaid .outside (splitLines (joinLines lines)))
      have hRun := @steps_append Grammar.mermaid .outside (splitLines (joinLines lines)) [Line.vacant]
      rw [← hLines] at hRun
      exact ⟨_, hRun, hLine, hTally, bne_eq_false_iff_eq.mpr (congrArg Line.body hLine)⟩
    have hNone (number : Nat) : changedFrom number [last] = [] := by
      rw [changedFrom, hSame]
      rfl
    intro run
    simp only [run, hRun, List.map_append, List.map_singleton, hLine, hTally]
    refine ⟨?_, ?_, ?_⟩
    · rw [joinLines_append_vacant]
      rfl
    · rw [changedFrom_append, hNone, List.append_nil]
      rfl
    · rw [Tally.sum_append]
      rfl

end Repair

/-- A document repairs to what it says, and the report says which of its lines have changed and how many
repairs of each kind were made. -/
theorem normalize_document (d : Document) :
    normalize Grammar.mermaid d.text = d.repaired ∧
      (repairReport Grammar.mermaid d.text).changedLines = d.changedLines ∧
      (repairReport Grammar.mermaid d.text).tally = d.repairs := by
  obtain ⟨hText, hChanged, hTally⟩ := Repair.run_joinLines (Document.soundLines_rows d.placed)
  obtain ⟨hLines, hTallies⟩ := Document.steps_rows .outside d.placed
  refine ⟨hText.trans ?_, hChanged.trans ?_, hTally.trans hTallies⟩
  · rw [hLines]
    rfl
  · rw [Repair.changedFrom_eq, ← List.zip_map', hLines, Repair.map_line_steps, List.zip_map',
      List.zipIdx_map, List.filterMap_map]
    rfl

/-- A diagram with one block that is closed and one that is not. The pieces of one name have to stay
apart, a directive and a remark hold what is repaired elsewhere, and the last line has no ending. -/
def Document.lineItems : Document where
  rows :=
    let bare : Space := ⟨[], isAllGap_nil⟩
    let one : Space := ⟨" ".toList, rfl⟩
    let gap : Gap := ⟨one, by decide⟩
    let wide : Gap := ⟨⟨"  \t".toList, rfl⟩, by decide⟩
    let lineItem : Name := .ofText "LINE-ITEM".toList
    let order : Name := .ofText "ORDER".toList
    let key : Attribute :=
      { dataType := .ofText "int".toList
        gap
        name := ⟨⟨.ofText "item".toList, by decide⟩, [(wide, ⟨.ofText "id".toList, by decide⟩)]⟩
        modifiers := [(gap, ⟨"PK,FK".toList, by decide⟩)]
        remark? := some (gap, ⟨"not // a comment".toList, by decide, by decide⟩) }
    let apart : Attribute :=
      { dataType := .ofText "string".toList
        gap
        name := ⟨⟨.ofText "P".toList, by decide⟩, [(gap, ⟨.ofText "K".toList, by decide⟩)]⟩
        modifiers := []
        remark? := none }
    let date : Attribute :=
      { dataType := .ofText "date".toList
        gap := wide
        name := ⟨⟨.ofText "placed".toList, by decide⟩, [(gap, ⟨.ofText "on".toList, by decide⟩)]⟩
        modifiers := []
        remark? := none }
    let belongs : Relationship :=
      { left := lineItem
        gap := one
        operator := ⟨"\x7do--||".toList, by decide⟩
        gap' := bare
        right := order
        label? := some ⟨one, bare, .ofText "is".toList,
          [(gap, .ofText "part".toList), (wide, .ofText "of".toList)]⟩ }
    let comment (rest : RestOfLine) : Tail := ⟨one, some rest⟩
    [ ⟨bare, .keyword, .crlf, by decide⟩,
      ⟨one, .blank, .lf, by decide⟩,
      ⟨bare, .directive ⟨" A-B \x7b // c".toList, by decide⟩, .lf, by decide⟩,
      ⟨bare, .code (.entityHeader lineItem one) (comment ⟨" \"parts\"".toList, by decide⟩), .lf,
        by decide⟩,
      ⟨one, .code (.entityAttribute key) ⟨bare, none⟩, .lf, by decide⟩,
      ⟨one, .code (.entityAttribute apart) ⟨one, none⟩, .lf, by decide⟩,
      ⟨bare, .code .entityFooter (comment ⟨[], by decide⟩), .crlf, by decide⟩,
      ⟨bare, .code (.entityHeader order bare) ⟨bare, none⟩, .lf, by decide⟩,
      ⟨wide.toSpace, .code (.entityAttribute date) ⟨bare, none⟩, .lf, by decide⟩,
      ⟨bare, .code (.relationship belongs) (comment ⟨" end".toList, by decide⟩), .endOfText,
        by decide⟩ ]
  placed := by decide

theorem normalize_document_lineItems :
    let t : Text := ("erDiagram\r\n \n%% A-B \x7b // c\nLINE-ITEM \x7b // \"parts\"\n" ++
      " int item  \tid PK,FK \"not // a comment\"\n string P K \n\x7d //\r\nORDER\x7b\n" ++
      "  \tdate  \tplaced on\nLINE-ITEM \x7do--||ORDER :is part  \tof // end").toList
    let new : Text := ("erDiagram\r\n \n%% A-B \x7b // c\nLINE_ITEM \x7b\n" ++
      " int itemid PK,FK \"not // a comment\"\n string P K \n\x7d\r\nORDER\x7b\n" ++
      "  \tdate  \tplacedon\nLINE_ITEM \x7do--||ORDER :isPartOf").toList
    Document.lineItems.text = t ∧ normalize Grammar.mermaid t = new ∧
      (repairReport Grammar.mermaid t).changedLines = [4, 5, 7, 9, 10] ∧
      (repairReport Grammar.mermaid t).tally =
        { commentsStripped := 3, entityNamesRepaired := 2, attributeNamesJoined := 2,
          labelsCamelCased := 1 } := by
  intro t new
  have hText : Document.lineItems.text = t := by decide +kernel
  have hRepaired : Document.lineItems.repaired = new := by decide +kernel
  have hLines : Document.lineItems.changedLines = [4, 5, 7, 9, 10] := by decide +kernel
  have hRepairs : Document.lineItems.repairs = ⟨3, 2, 2, 1⟩ := by decide +kernel
  obtain ⟨hNew, hChanged, hTally⟩ := normalize_document Document.lineItems
  rw [hText] at hNew hChanged hTally
  exact ⟨hText, hNew.trans hRepaired, hChanged.trans hLines, hTally.trans hRepairs⟩

end ErDiagram
