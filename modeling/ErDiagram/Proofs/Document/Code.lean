import ErDiagram.Proofs.Document.Parts
import ErDiagram.Proofs.Repair.Relationship

/-!
Headers, footers and relationships of a document. Each is read as what it is and becomes what the
document says, with whatever blanks stand behind it.
-/

namespace ErDiagram

namespace Document

/-- What happens to a line with the code and a gap behind it, inside a block or outside: it is read as
a kind, and what is done to it is what the document says. -/
structure Code.Treated (code : Code) (inside : Bool) (trail : Space) (kind : LineKind) : Prop where
  reads : Reading.Reads Grammar.mermaid inside (code.text ++ trail.text) kind
  newCode : Repair.newCode Grammar.mermaid (code.text ++ trail.text) kind =
    code.repaired ++ trail.text
  tally : Tally.sum ((Repair.codeDecisions Grammar.mermaid (code.text ++ trail.text) kind).map
    Decision.tally) = code.repairs
  changes : kind.isPassThrough = false
  after : ∀ state : BlockState, state.isInside = inside →
    (state.next (code.text ++ trail.text) kind).isInside = code.leavesInside inside

/-- A hyphenated name is counted once. -/
theorem Name.tally_decisions {code : Text} {span : Span} (name : Name)
    (h : code.slice span = name.text) :
    Tally.sum ((Repair.entityDecisions code span).map Decision.tally) = name.repairs := by
  simp only [Repair.entityDecisions, h, name.repair?_eq, Name.repairs]
  split
  next hSome =>
    split at hSome
    next hHyphen =>
      rw [if_pos hHyphen]
      rfl
    next => cases hSome
  next hNone =>
    split at hNone
    next => cases hNone
    next hHyphen =>
      rw [if_neg hHyphen]
      rfl

section Header

variable (name : Name) (gap trail : Space)

def headerLayout : HeaderLayout where
  name := name.text
  gap := gap.text
  bracketed := []
  trail := trail.text

theorem text_headerLayout :
    (headerLayout name gap trail).text = (Code.entityHeader name gap).text ++ trail.text := by
  simp [HeaderLayout.text, headerLayout, Code.text]

theorem valid_headerLayout : (headerLayout name gap trail).Valid Grammar.mermaid where
  ne_nil := name.ne_nil
  trimmed := name.tight.trimEnd_eq
  bracket := name.plain.not_mem rfl
  gap := gap.isAllBlank
  bracketed := Or.inl rfl
  trail := trail.isAllBlank
  operator := by
    have hNot {c : Char} (hPlain : isPlain c = false) (hc : c ≠ '\x7b') :
        c ∉ (headerLayout name gap trail).text := by
      rw [text_headerLayout, Code.text]
      simp [name.plain.not_mem hPlain, gap.plain.not_mem hPlain, trail.plain.not_mem hPlain, hc]
    exact hasOperator_eq_false (hNot rfl (by decide)) (hNot rfl (by decide))

theorem treated_header (inside : Bool) :
    (Code.entityHeader name gap).Treated inside trail (.entityHeader ⟨0, name.text.size⟩) := by
  have hText := text_headerLayout name gap trail
  have hRenamed : ((headerLayout name gap trail).renamed name.repaired).text =
      (Code.entityHeader name gap).repaired ++ trail.text := by
    simp [HeaderLayout.text, HeaderLayout.renamed, headerLayout, Code.repaired]
  refine ⟨?_, ?_, ?_, rfl, fun _ _ => rfl⟩
  · rw [← hText]
    exact .entityHeader (valid_headerLayout name gap trail)
  · rw [← hText, ← hRenamed, ← name.repair_eq]
    exact Repair.newCode_header (headerLayout name gap trail)
  · rw [← hText]
    exact name.tally_decisions (headerLayout name gap trail).slice_name

theorem treated_footer : Code.entityFooter.Treated true trail .entityFooter := by
  refine ⟨.entityFooter rfl ?_, ?_, rfl, rfl, fun _ _ => rfl⟩
  · exact (Text.trim_eq_singleton_iff rfl).mpr ⟨[], trail.text, rfl, rfl, trail.isAllBlank⟩
  · have hSettled : Repair.Settled Grammar.mermaid (Code.entityFooter.text ++ trail.text) .entityFooter := rfl
    rw [Repair.newCode_of_settled hSettled]
    rfl

end Header

theorem quiet_operator (operator : Operator) : Quiet operator.text := by
  have hAll : ∀ o ∈ Grammar.standardOperators, '/' ∉ o ∧ '"' ∉ o := by decide
  obtain ⟨hSlash, hQuote⟩ := hAll operator.text operator.mem
  exact .of_not_mem hSlash hQuote

theorem quiet_label (gap gap' : Space) {words : Text} (h : Plain words) :
    Quiet (gap.text ++ ':' :: gap'.text ++ words) := by
  have hColon : Quiet [':'] := .of_not_mem (by decide) (by decide)
  have hQuiet := ((Quiet.of_plain gap.plain).append hColon).append (.of_plain (gap'.plain.append h))
  simpa using hQuiet

theorem quiet_relationship {left right rest : Text} (hLeft : Plain left) (gap : Space)
    (operator : Operator) (gap' : Space) (hRight : Plain right) (hRest : Quiet rest) :
    Quiet (left ++ gap.text ++ operator.text ++ gap'.text ++ right ++ rest) := by
  have hBefore := Quiet.of_plain (hLeft.append gap.plain)
  have hBehind := Quiet.of_plain (gap'.plain.append hRight)
  have hQuiet := ((hBefore.append (quiet_operator operator)).append hBehind).append hRest
  simpa using hQuiet

namespace Relationship

variable (r : Relationship) (trail : Space)

theorem quiet : Quiet r.text := by
  cases h : r.label? with
  | none =>
      have hQuiet := quiet_relationship r.left.plain r.gap r.operator r.gap' r.right.plain
        (@Quiet.of_plain [] nofun)
      rw [text, h]
      exact hQuiet
  | some label =>
      have hWords : Plain (label.words.text Ident.text) := label.words.plain Ident.plain
      rw [text, h]
      exact quiet_relationship r.left.plain r.gap r.operator r.gap' r.right.plain
        (quiet_label label.gap label.gap' hWords)

theorem tight : Text.Tight r.text := by
  have hNames := r.left.tight.append r.right.tight (r.gap.text ++ r.operator.text ++ r.gap'.text)
  simp only [← List.append_assoc] at hNames
  cases h : r.label? with
  | none =>
      rw [text, h, Option.map_none, Option.getD_none, List.append_nil]
      exact hNames
  | some label =>
      have hWords : Text.Tight (label.words.text Ident.text) := label.words.tight Ident.tight
      have hLabel := hNames.append hWords (label.gap.text ++ ':' :: label.gap'.text)
      rw [text, h, Option.map_some, Option.getD_some, Label.text, ← List.append_assoc]
      exact hLabel

theorem newline : '\n' ∉ r.text := by
  have hAll : ∀ o ∈ Grammar.standardOperators, '\n' ∉ o := by decide
  have hOperator := hAll r.operator.text r.operator.mem
  have hPlain {t : Text} (h : Plain t) : '\n' ∉ t := h.not_mem rfl
  cases h : r.label? with
  | none =>
      simp [text, h, hPlain r.left.plain, hPlain r.gap.plain, hOperator, hPlain r.gap'.plain,
        hPlain r.right.plain]
  | some label =>
      simp [text, h, hPlain r.left.plain, hPlain r.gap.plain, hOperator, hPlain r.gap'.plain,
        hPlain r.right.plain, Label.text, hPlain label.gap.plain, hPlain label.gap'.plain,
        hPlain (label.words.plain Ident.plain)]

/-- The parts of the line. Without a label the right side leads to its end. -/
def layout : RelationshipLayout where
  lead := []
  left := r.left.text
  leftGap := r.gap.text
  operator := r.operator.text
  rightGap := r.gap'.text
  right := r.right.text
  bridge := (r.label?.map fun label => label.gap.text ++ ':' :: label.gap'.text).getD trail.text
  label? := r.label?.map fun label => label.words.text Ident.text
  trail := (r.label?.map fun _ => trail.text).getD []

theorem text_layout : (r.layout trail).text = r.text ++ trail.text := by
  cases h : r.label? with
  | none => simp [RelationshipLayout.text_eq, layout, text, h]
  | some label => simp [RelationshipLayout.text_eq, layout, text, h, Label.text]

theorem valid_layout : (r.layout trail).Valid Grammar.mermaid where
  lead := rfl
  left := r.left.tight
  leftGap := r.gap.isAllBlank
  operator := (r.left.plain.append r.gap.plain).leftmost r.operator _
  rightGap := r.gap'.isAllBlank
  right := r.right.tight
  colon := r.right.plain.not_mem rfl
  place := by
    simp only [layout]
    cases r.label? with
    | none => exact .absent trail.isAllBlank
    | some label =>
        exact .label label.gap.isAllBlank label.gap'.isAllBlank (label.words.tight Ident.tight)
          trail.isAllBlank

section Label

variable {r} {label : Label}

theorem label?_layout (h : r.label? = some label) :
    (r.layout trail).label? = some (label.words.text Ident.text) := by
  rw [layout, h]
  rfl

theorem text_withLabel (h : r.label? = some label) (words : Text) :
    ((r.layout trail).withLabel (some words)).text =
      r.left.repaired ++ r.gap.text ++ r.operator.text ++ r.gap'.text ++ r.right.repaired ++
        (label.gap.text ++ ':' :: label.gap'.text ++ words ++ trail.text) := by
  simp [RelationshipLayout.text_eq, RelationshipLayout.withLabel, RelationshipLayout.revised,
    layout, Name.repair_eq, h]

/-- The line with the names repaired and a label of a plain text has no comment. -/
theorem find?_withLabel (h : r.label? = some label) {words : Text} (hWords : Plain words) :
    Comment.find? Grammar.mermaid.commentMarker ((r.layout trail).withLabel (some words)).text =
      none := by
  have hLabel := (quiet_label label.gap label.gap' hWords).append (.of_plain trail.plain)
  rw [text_withLabel trail h]
  exact (quiet_relationship r.left.plain_repaired r.gap r.operator r.gap' r.right.plain_repaired
    hLabel).find?_eq_none

/-- Only a label of one word stays as it is. -/
theorem newLabel?_layout (h : r.label? = some label) :
    (r.layout trail).newLabel? Grammar.mermaid =
      if label.words.more = [] then none else some (camelCased label.words) := by
  rw [RelationshipLayout.newLabel?, label?_layout trail h, Option.bind_some, camelCase?_eq]
  by_cases hMore : label.words.more = []
  · rw [if_pos hMore]
    rfl
  · rw [if_neg hMore, Option.filter_some, find?_withLabel trail h (plain_camelCased label.words)]
    rfl

theorem tally_label (h : r.label? = some label) :
    let s := r.layout trail
    Tally.sum ((Repair.labelDecisions Grammar.mermaid s.text
      (Repair.entityDecisions s.text s.parts.left ++ Repair.entityDecisions s.text s.parts.right)
      ⟨s.beforeLabel.size, s.beforeLabel.size + (label.words.text Ident.text).size⟩).map
        Decision.tally) = label.repairs := by
  intro s
  have hCamel := camelCase?_eq label.words
  rw [Label.repairs]
  by_cases hMore : label.words.more = []
  · rw [if_pos hMore] at hCamel ⊢
    rw [Repair.labelDecisions_of_none _ (label?_layout trail h) hCamel]
    rfl
  · rw [if_neg hMore] at hCamel ⊢
    rw [Repair.labelDecisions_of_some _ (label?_layout trail h) hCamel,
      find?_withLabel trail h (plain_camelCased label.words)]
    rfl

end Label

theorem text_repaired : ((r.layout trail).repaired Grammar.mermaid).text = r.repaired ++ trail.text := by
  cases h : r.label? with
  | none =>
      simp [RelationshipLayout.text_eq, RelationshipLayout.repaired, RelationshipLayout.newLabel?,
        RelationshipLayout.withLabel, RelationshipLayout.revised, layout, repaired, Name.repair_eq, h]
  | some label =>
      have hLabel : ((r.layout trail).newLabel? Grammar.mermaid).or (r.layout trail).label? =
          some (camelCased label.words) := by
        rw [newLabel?_layout trail h, label?_layout trail h]
        by_cases hMore : label.words.more = []
        · rw [if_pos hMore, Option.none_or, Chain.text, camelCased, hMore]
          rfl
        · rw [if_neg hMore, Option.some_or]
      rw [RelationshipLayout.repaired, hLabel, text_withLabel trail h]
      simp [repaired, Label.repaired, h]

theorem tally_decisions :
    Tally.sum ((Repair.codeDecisions Grammar.mermaid (r.layout trail).text
      (.relationship (r.layout trail).parts)).map Decision.tally) = r.repairs := by
  have hSides : Tally.sum ((Repair.entityDecisions (r.layout trail).text (r.layout trail).parts.left ++
      Repair.entityDecisions (r.layout trail).text (r.layout trail).parts.right).map Decision.tally) =
        r.left.repairs + r.right.repairs := by
    rw [List.map_append, Tally.sum_append, r.left.tally_decisions (r.layout trail).slice_left,
      r.right.tally_decisions (r.layout trail).slice_right]
  cases h : r.label? with
  | none =>
      have hNone : (r.layout trail).parts.label? = none := by
        rw [RelationshipLayout.parts, layout, h]
        rfl
      simp only [Repair.codeDecisions, hNone]
      rw [hSides, repairs, h]
      rfl
  | some label =>
      have hSome : (r.layout trail).parts.label? = some ⟨(r.layout trail).beforeLabel.size,
          (r.layout trail).beforeLabel.size + (label.words.text Ident.text).size⟩ := by
        rw [RelationshipLayout.parts, label?_layout trail h]
        rfl
      simp only [Repair.codeDecisions, hSome]
      rw [List.map_append, Tally.sum_append, hSides, tally_label trail h, repairs, h]
      rfl

theorem treated (inside : Bool) :
    (Code.relationship r).Treated inside trail (.relationship (r.layout trail).parts) := by
  have hText : (r.layout trail).text = (Code.relationship r).text ++ trail.text := r.text_layout trail
  refine ⟨?_, ?_, ?_, rfl, fun _ _ => rfl⟩
  · rw [← hText]
    exact .relationship (r.valid_layout trail) fun _ => r.left.hasBlank
  · rw [← hText, Repair.newCode_relationship]
    exact r.text_repaired trail
  · rw [← hText]
    exact r.tally_decisions trail

end Relationship

end Document

end ErDiagram
