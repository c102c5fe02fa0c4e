import ErDiagram.Proofs.Reading.Kind
import ErDiagram.Proofs.Text.Span

/-!
Reading a line with a check at every cut. The steps are those of the reading without checks, but a cut
that leaves the text or falls inside a character gives nothing at all. No cut does, under any grammar:
the checked reading always answers, and its answer is that of the other. The search for a comment and
the tokens go along the characters of the line, so there is no position in them to check.
-/

namespace ErDiagram.Checked

/-- A line without its comment and the blanks in front of the comment. -/
def strip (marker content : Text) : Option Text :=
  match Comment.find? marker content with
  | some position => (content.slice? ⟨0, position⟩).map Text.trimEnd
  | none => some content

/-- The label behind a colon and the right side in front of it. -/
def behindOperator (code : Text) (operator : Span) : Option (Option Span × Option Span) := do
  let behind ← code.slice? ⟨operator.stop, code.size⟩
  match (Text.find? [':'] behind).map (operator.stop + ·) with
  | some colon =>
    let label ← code.trimSpan? ⟨colon + 1, code.size⟩
    let right ← code.trimSpan? ⟨operator.stop, colon⟩
    return (Reading.nonempty right, Reading.nonempty label)
  | none =>
    let right ← code.trimSpan? ⟨operator.stop, code.size⟩
    return (Reading.nonempty right, none)

def relationship (g : Grammar) (code : Text) : Option (Option RelationshipParts) :=
  match g.findOperator? code with
  | none => some none
  | some operator => do
    let left ← code.trimSpan? ⟨0, operator.start⟩
    let (right?, label?) ← behindOperator code operator
    return (Reading.nonempty left).bind fun left =>
      right?.map fun right => ⟨left, operator, right, label?⟩

def header (g : Grammar) (code : Text) : Option (Option Span) :=
  let trimmed := code.trimEnd
  let head := Text.trimEnd trimmed.dropLast
  if trimmed.getLast? ≠ some '\x7b' ∨ head = [] ∨ g.hasOperator trimmed = true then some none
  else do
    let front ← head.slice? ⟨0, (Text.find? ['['] head).getD head.size⟩
    let name := front.trimEnd
    return if name.isEmpty then none else some ⟨0, name.size⟩

/-- What a line is, and the state behind it. -/
abbrev Outcome : Type := LineKind × BlockState

/-- A header, if the line is one, with the block that it opens. -/
def openBlock (g : Grammar) (code : Text) (otherwise : Outcome) : Option Outcome := do
  match ← header g code with
  | some name =>
    let entity ← code.slice? name
    return (.entityHeader name, .inside entity)
  | none => return otherwise

def outside (g : Grammar) (code : Text) : Option Outcome := do
  match ← relationship g code with
  | some parts => return (.relationship parts, .outside)
  | none => openBlock g code (.other, .outside)

/-- A relationship whose left side is one word. -/
def closing (g : Grammar) (code : Text) : Option (Option RelationshipParts) := do
  match ← relationship g code with
  | some parts =>
    let left ← code.slice? parts.left
    return if left.hasBlank then none else some parts
  | none => return none

def inside (g : Grammar) (entity code : Text) : Option Outcome :=
  if code.trim = ['\x7d'] then some (.entityFooter, .outside)
  else do
    match ← closing g code with
    | some parts => return (.relationship parts, .outside)
    | none =>
      openBlock g code (.entityAttribute (Reading.attributeParts g code), .inside entity)

/-- What the code of a line is and the state behind the line, by the state before it. -/
def outcome (g : Grammar) (code : Text) : BlockState → Option Outcome
  | .outside => outside g code
  | .inside entity => inside g entity code

/-- Read a line without its indentation, and find the state behind it. -/
def line (g : Grammar) (state : BlockState) (content : Text) : Option (Reading × BlockState) :=
  if g.isDirective content then some (⟨.directive, content.size, false⟩, state)
  else do
    let code ← strip g.commentMarker content
    let (kind, after) ← outcome g code state
    return (⟨kind, code.size, code.size < content.size⟩, after)

theorem strip_eq (marker content : Text) :
    strip marker content = some (Comment.strip marker content) := by
  rw [strip, Comment.strip]
  cases hFind : Comment.find? marker content with
  | none => rfl
  | some position =>
      obtain ⟨before, c, after, hContent, rfl, -⟩ := Comment.exists_of_locate hFind
      simp only
      rw [Text.slice?_front hContent, Text.takeBytes_of_eq hContent rfl, Option.map_some]

variable {g : Grammar} {code : Text}

theorem behindOperator_eq {front rest : Text} {operator : Span} (hStop : operator.stop = front.size)
    (hCode : code = front ++ rest) :
    behindOperator code operator =
      some (Reading.rightSpan? code operator, Reading.labelSpan? code operator) := by
  have hRest : code.slice? ⟨operator.stop, code.size⟩ = some rest := Text.slice?_rest hCode hStop
  have hColon : Reading.colon? code operator = (Text.find? [':'] rest).map (operator.stop + ·) := by
    rw [Reading.colon?, Text.dropBytes_of_eq hCode hStop]
  rw [behindOperator, hRest, Reading.rightSpan?, Reading.labelSpan?, hColon]
  by_cases hMem : ':' ∈ rest
  · obtain ⟨a, b, hParts, ha⟩ : ∃ a b : Text, rest = a ++ ':' :: b ∧ ':' ∉ a :=
      List.eq_append_cons_of_mem hMem
    rw [hParts] at hCode
    have hLabel : code.slice? ⟨operator.stop + a.size + 1, code.size⟩ = some b :=
      Text.slice?_rest (a := front ++ a ++ [':']) (by simpa using hCode) (by simp [hStop]; rfl)
    have hRight : code.slice? ⟨operator.stop, operator.stop + a.size⟩ = some a :=
      Text.slice?_of_eq (c := ':' :: b) (by simpa using hCode) hStop (by rw [hStop])
    have hFind : Text.find? [':'] rest = some a.size := by rw [hParts, Text.find?_singleton _ a b ha]
    simp [hFind, Text.trimSpan?_of_slice? hLabel, Text.trimSpan?_of_slice? hRight]
  · have hFind := (Text.find?_singleton_eq_none ':' rest).mpr hMem
    simp [hFind, Text.trimSpan?_of_slice? hRest]

theorem relationship_eq (g : Grammar) (code : Text) :
    relationship g code = some (Reading.relationship? g code) := by
  cases hFind : g.findOperator? code with
  | none => rw [relationship, Reading.relationship?, hFind]; rfl
  | some span =>
      obtain ⟨before, operator, after, hCode, -, rfl⟩ := Grammar.exists_leftmost hFind
      have hLeft : code.slice? ⟨0, before.size⟩ = some before :=
        Text.slice?_front (hCode.trans (List.append_assoc ..))
      have hBehind := @behindOperator_eq code (before ++ operator) after
        ⟨before.size, before.size + operator.size⟩ (Text.size_append ..).symm hCode
      rw [relationship, Reading.relationship?_eq hFind, hFind]
      simp only [Text.trimSpan?_of_slice? hLeft, hBehind, Option.bind_eq_bind, Option.bind_some,
        Option.map_eq_bind]
      rfl

theorem header_eq (g : Grammar) (code : Text) : header g code = some (Reading.header? g code) := by
  simp only [header, Reading.header?, Text.slice?_upTo, Option.bind_eq_bind, Option.bind_some]
  by_cases hBrace : code.trimEnd.getLast? = some '\x7b'
  · by_cases hHead : Text.trimEnd code.trimEnd.dropLast = []
    · have hNil : Text.trimEnd [] = [] := rfl
      simp [hHead, hNil]
    · cases g.hasOperator code.trimEnd <;> simp [hBrace, hHead]
  · simp [hBrace]

theorem openBlock_eq (g : Grammar) (code : Text) (otherwise : Outcome) :
    openBlock g code otherwise = some
      (match Reading.header? g code with
      | some name => (.entityHeader name, .inside (code.slice name))
      | none => otherwise) := by
  rw [openBlock, header_eq]
  cases hHeader : Reading.header? g code with
  | none => rfl
  | some span =>
      obtain ⟨name, rest, hCode, hne, rfl⟩ := Reading.exists_of_header? hHeader
      have hName : Span.Within ⟨0, name.size⟩ code :=
        Span.within_of_eq (a := []) hCode hne rfl (Nat.zero_add _).symm
      simp [hName.slice?]

theorem closing_eq (g : Grammar) (code : Text) :
    closing g code = some (Reading.closingRelationship? g code) := by
  rw [closing, relationship_eq, Reading.closingRelationship?]
  cases hParts : Reading.relationship? g code with
  | none => rfl
  | some parts =>
      obtain ⟨s, hValid, rfl, rfl⟩ := Reading.exists_valid hParts
      have hLeft : Span.Within s.parts.left s.text :=
        Span.within_of_eq (s.text_eq.trans (List.append_assoc ..).symm) hValid.left.ne_nil rfl rfl
      cases hBlank : (s.text.slice s.parts.left).hasBlank <;>
        simp [hLeft.slice?, hBlank, Option.filter]

/-- The state that an outcome names is the one behind a line of that kind. -/
theorem outcome_eq (g : Grammar) (code : Text) (state : BlockState) :
    outcome g code state =
      let kind := Reading.kindOf g state.isInside code
      some (kind, state.next code kind) := by
  cases state with
  | outside =>
      change outside g code =
        some (Reading.outsideKind g code, BlockState.outside.next code (Reading.outsideKind g code))
      rw [outside, relationship_eq, Reading.outsideKind]
      cases Reading.relationship? g code with
      | some parts => rfl
      | none =>
          simp only [Option.bind_eq_bind, Option.bind_some, openBlock_eq]
          cases Reading.header? g code with
          | some name => rfl
          | none => rfl
  | inside entity =>
      change inside g entity code =
        some (Reading.insideKind g code,
          (BlockState.inside entity).next code (Reading.insideKind g code))
      rw [inside, closing_eq, Reading.insideKind]
      by_cases hBrace : code.trim = ['\x7d']
      · rw [if_pos hBrace, if_pos hBrace]
        rfl
      · rw [if_neg hBrace, if_neg hBrace]
        cases Reading.closingRelationship? g code with
        | some parts => rfl
        | none =>
            simp only [Option.bind_eq_bind, Option.bind_some, openBlock_eq]
            cases Reading.header? g code with
            | some name => rfl
            | none => rfl

/-- Every cut that reading a line makes lies in the text and falls between two characters. -/
theorem line_eq (g : Grammar) (state : BlockState) (content : Text) :
    line g state content = some (readLine g state content, state.after g content) := by
  rw [line, BlockState.after]
  cases hDirective : g.isDirective content with
  | true =>
      rw [readLine_of_directive hDirective]
      rfl
  | false =>
      rw [code_of_not_directive hDirective, readLine_of_not_directive hDirective, strip_eq]
      simp only [Bool.false_eq_true, if_false, Option.bind_eq_bind, Option.bind_some, outcome_eq]
      rfl

end ErDiagram.Checked
