import ErDiagram.Proofs.Gap
import ErDiagram.Proofs.Reading.Header
import ErDiagram.Proofs.Reading.Relationship

/-!
What a line is, told by how it is laid out. The cases of the relation exclude each other, so a line is
of a kind exactly when the relation says so. A whole line is read by its code, unless it is a directive.
-/

namespace ErDiagram

theorem Text.trim_eq_singleton_iff {c : Char} (hc : isBlank c = false) {t : Text} :
    t.trim = [c] ↔ ∃ a b : Text, t = a ++ c :: b ∧ a.isAllBlank ∧ b.isAllBlank := by
  have hTight : Text.Tight [c] := .of_hasBlank (by simp) (by simp [hc])
  constructor
  · intro h
    cases hBlank : t.isAllBlank with
    | true =>
        rw [Text.trim_of_blank hBlank] at h
        cases h
    | false =>
        obtain ⟨lead, core, trail, hLead, hCore, hTrail, rfl⟩ := Text.exists_tight hBlank
        rw [Text.trim_parts hLead hCore hTrail] at h
        exact ⟨lead, trail, by simp [h], hLead, hTrail⟩
  · rintro ⟨a, b, rfl, ha, hb⟩
    have hTrim := Text.trim_parts ha hTight hb
    rwa [List.append_assoc, List.singleton_append] at hTrim

/-- A text with a character that is neither blank nor the brace is no footer. -/
theorem Text.trim_ne_singleton {c d : Char} (hc : isBlank c = false) {t : Text} (hd : d ∈ t)
    (hBlank : isBlank d = false) (hne : d ≠ c) : t.trim ≠ [c] := by
  intro h
  obtain ⟨a, b, rfl, ha, hb⟩ := (Text.trim_eq_singleton_iff hc).mp h
  rcases List.mem_append.mp hd with hIn | hIn
  · exact Text.not_mem_of_blank ha hBlank hIn
  · rcases List.mem_cons.mp hIn with rfl | hLater
    · exact hne rfl
    · exact Text.not_mem_of_blank hb hBlank hLater

theorem HeaderLayout.trim_ne (s : HeaderLayout) : s.text.trim ≠ ['\x7d'] :=
  Text.trim_ne_singleton (d := '\x7b') rfl (by simp [text]) rfl (by decide)

/-- Both sides of a relationship have a character that is not blank. -/
theorem RelationshipLayout.Valid.trim_ne {g : Grammar} {s : RelationshipLayout} (h : s.Valid g) :
    s.text.trim ≠ ['\x7d'] := by
  intro hTrim
  obtain ⟨a, b, hText, ha, hb⟩ := (Text.trim_eq_singleton_iff rfl).mp hTrim
  have hSide {t : Text} (ht : Text.Tight t) : 0 < t.countP fun c => !isBlank c := by
    obtain ⟨c, hHead, hc⟩ := ht.head
    exact List.countP_pos_iff.mpr ⟨c, List.mem_of_head? hHead, by simp [hc]⟩
  have hBlank {t : Text} (ht : t.isAllBlank) : (t.countP fun c => !isBlank c) = 0 :=
    List.countP_eq_zero.mpr fun c hc => by simp [Text.isAllBlank_iff.mp ht c hc]
  have hLeft := hSide h.left
  have hRight := hSide h.right
  have hCount := congrArg (List.countP fun c => !isBlank c) (s.text_eq.symm.trans hText)
  simp only [List.countP_append, List.countP_cons, hBlank ha, hBlank hb] at hCount
  split at hCount <;> omega

namespace Reading

/-- What the code of a line is, inside a block or outside. -/
def kindOf (g : Grammar) (inside : Bool) (code : Text) : LineKind :=
  if inside then insideKind g code else outsideKind g code

/-- What the code of a line is, by what is found on it. -/
inductive Found (g : Grammar) (inside : Bool) (code : Text) : LineKind → Prop where
  | entityHeader {name : Span} (hHeader : header? g code = some name) :
      Found g inside code (.entityHeader name)
  | relationship {parts : RelationshipParts} (hParts : relationship? g code = some parts)
      (hWord : inside = true → (code.slice parts.left).hasBlank = false) :
      Found g inside code (.relationship parts)
  | entityFooter (hInside : inside = true) (hBrace : code.trim = ['\x7d']) :
      Found g inside code .entityFooter
  | entityAttribute (hInside : inside = true) (hBrace : code.trim ≠ ['\x7d'])
      (hRelationship : closingRelationship? g code = none) (hHeader : header? g code = none) :
      Found g inside code (.entityAttribute (attributeParts g code))
  | other (hOutside : inside = false) (hRelationship : relationship? g code = none)
      (hHeader : header? g code = none) : Found g inside code .other

theorem found_kindOf (g : Grammar) (inside : Bool) (code : Text) :
    Found g inside code (kindOf g inside code) := by
  cases inside with
  | false =>
      change Found g false code (outsideKind g code)
      unfold outsideKind
      split
      next parts hParts => exact .relationship hParts nofun
      next hNone =>
        split
        next name hName => exact .entityHeader hName
        next hNoHeader => exact .other rfl hNone hNoHeader
  | true =>
      change Found g true code (insideKind g code)
      unfold insideKind
      split
      next hBrace => exact .entityFooter rfl hBrace
      next hBrace =>
        split
        next parts hParts =>
          obtain ⟨hSome, hWord⟩ := Option.filter_eq_some_iff.mp hParts
          exact .relationship hSome fun _ => by simpa using hWord
        next hNone =>
          split
          next name hName => exact .entityHeader hName
          next hNoHeader => exact .entityAttribute rfl hBrace hNone hNoHeader

/-- What the code of a line is, by its layout. Inside a block everything is an attribute that is
nothing else. -/
inductive Reads (g : Grammar) (inside : Bool) : Text → LineKind → Prop where
  | entityHeader {s : HeaderLayout} (hValid : s.Valid g) :
      Reads g inside s.text (.entityHeader ⟨0, s.name.size⟩)
  | relationship {s : RelationshipLayout} (hValid : s.Valid g)
      (hWord : inside = true → s.left.hasBlank = false) :
      Reads g inside s.text (.relationship s.parts)
  | entityFooter {code : Text} (hInside : inside = true) (hBrace : code.trim = ['\x7d']) :
      Reads g inside code .entityFooter
  | entityAttribute {code : Text} (hInside : inside = true) (hBrace : code.trim ≠ ['\x7d'])
      (hRelationship : closingRelationship? g code = none) (hHeader : header? g code = none) :
      Reads g inside code (.entityAttribute (attributeParts g code))
  | other {code : Text} (hOutside : inside = false) (hRelationship : relationship? g code = none)
      (hHeader : header? g code = none) : Reads g inside code .other

variable {g : Grammar} {inside : Bool} {code : Text} {k : LineKind}

theorem closingRelationship?_of_valid {s : RelationshipLayout} (h : s.Valid g)
    (hWord : s.left.hasBlank = false) : closingRelationship? g s.text = some s.parts := by
  rw [closingRelationship?, relationship?_of_valid h]
  simp [s.slice_left, hWord]

theorem closingRelationship?_eq_some_iff {parts : RelationshipParts} :
    closingRelationship? g code = some parts ↔
      ∃ s : RelationshipLayout, s.Valid g ∧ s.left.hasBlank = false ∧ code = s.text ∧
        parts = s.parts := by
  constructor
  · intro h
    rw [closingRelationship?, Option.filter_eq_some_iff] at h
    obtain ⟨hSome, hWord⟩ := h
    obtain ⟨s, hValid, rfl, rfl⟩ := exists_valid hSome
    exact ⟨s, hValid, by simpa [s.slice_left] using hWord, rfl, rfl⟩
  · rintro ⟨s, hValid, hWord, rfl, rfl⟩
    exact closingRelationship?_of_valid hValid hWord

/-- No operator, no relationship. -/
theorem relationship?_eq_none (h : g.hasOperator code = false) : relationship? g code = none := by
  rw [Grammar.hasOperator, Option.isSome_eq_false_iff, Option.isNone_iff_eq_none] at h
  rw [relationship?, h]
  rfl

theorem kindOf_eq_of_reads (h : Reads g inside code k) : kindOf g inside code = k := by
  cases h with
  | @entityHeader s hValid =>
      have hNone := relationship?_eq_none hValid.operator
      cases inside with
      | false =>
          change outsideKind g s.text = _
          rw [outsideKind, hNone, header?_of_valid hValid]
      | true =>
          change insideKind g s.text = _
          rw [insideKind, if_neg s.trim_ne, closingRelationship?, hNone, Option.filter_none,
            header?_of_valid hValid]
  | @relationship s hValid hWord =>
      cases inside with
      | false =>
          change outsideKind g s.text = _
          rw [outsideKind, relationship?_of_valid hValid]
      | true =>
          change insideKind g s.text = _
          rw [insideKind, if_neg hValid.trim_ne, closingRelationship?_of_valid hValid (hWord rfl)]
  | entityFooter hInside hBrace =>
      subst hInside
      change insideKind g code = _
      rw [insideKind, if_pos hBrace]
  | entityAttribute hInside hBrace hRelationship hHeader =>
      subst hInside
      change insideKind g code = _
      rw [insideKind, if_neg hBrace, hRelationship, hHeader]
  | other hOutside hRelationship hHeader =>
      subst hOutside
      change outsideKind g code = _
      rw [outsideKind, hRelationship, hHeader]

theorem Reads.attribute_inv {parts : AttributeParts} (h : Reads g inside code (.entityAttribute parts)) :
    inside = true ∧ code.trim ≠ ['\x7d'] ∧ closingRelationship? g code = none ∧
      header? g code = none ∧ parts = attributeParts g code := by
  cases h with
  | entityAttribute hInside hBrace hRelationship hHeader =>
      exact ⟨hInside, hBrace, hRelationship, hHeader, rfl⟩

theorem reads_kindOf (hg : g.WellFormed) (inside : Bool) (code : Text) :
    Reads g inside code (kindOf g inside code) := by
  generalize hKind : kindOf g inside code = k
  cases hKind ▸ found_kindOf g inside code with
  | entityHeader hHeader =>
      obtain ⟨s, hValid, rfl, rfl⟩ := exists_valid_header hg hHeader
      exact .entityHeader hValid
  | relationship hParts hWord =>
      obtain ⟨s, hValid, rfl, rfl⟩ := exists_valid hParts
      exact .relationship hValid fun hInside => s.slice_left ▸ hWord hInside
  | entityFooter hInside hBrace => exact .entityFooter hInside hBrace
  | entityAttribute hInside hBrace hRelationship hHeader =>
      exact .entityAttribute hInside hBrace hRelationship hHeader
  | other hOutside hRelationship hHeader => exact .other hOutside hRelationship hHeader

/-- A line is of a kind exactly when its layout says so. -/
theorem reads_iff (hg : g.WellFormed) : Reads g inside code k ↔ kindOf g inside code = k := by
  refine ⟨kindOf_eq_of_reads, ?_⟩
  rintro rfl
  exact reads_kindOf hg inside code

end Reading

section Line

variable {g : Grammar} {state : BlockState} {content : Text}

/-- Only inside-ness counts of the state that a line is read in. -/
theorem readLine_congr {other : BlockState} (h : other.isInside = state.isInside) :
    readLine g other content = readLine g state content := by
  rw [readLine, readLine, h]

theorem readLine_of_directive (h : g.isDirective content = true) :
    readLine g state content = ⟨.directive, content.size, false⟩ := by
  rw [readLine, if_pos h]

theorem readLine_of_not_directive (h : g.isDirective content = false) :
    readLine g state content =
      let code := Comment.strip g.commentMarker content
      ⟨Reading.kindOf g state.isInside code, code.size, code.size < content.size⟩ := by
  rw [readLine, if_neg (by simp [h])]
  rfl

theorem kind_of_not_directive (h : g.isDirective content = false) :
    (readLine g state content).kind =
      Reading.kindOf g state.isInside (Comment.strip g.commentMarker content) := by
  rw [readLine_of_not_directive h]

theorem not_directive_of_kind (h : (readLine g state content).kind.isPassThrough = false) :
    g.isDirective content = false := by
  apply Bool.eq_false_iff.mpr
  intro hDirective
  rw [readLine_of_directive hDirective] at h
  cases h

theorem code_of_not_directive (h : g.isDirective content = false) :
    (readLine g state content).code content = Comment.strip g.commentMarker content := by
  obtain ⟨cut, hCut, -⟩ := Comment.exists_strip g.commentMarker content
  rw [readLine_of_not_directive h]
  exact Text.takeBytes_of_eq hCut rfl

/-- A line that is no directive is read as what its code looks like. -/
theorem reads_readLine (hg : g.WellFormed) (h : g.isDirective content = false) :
    Reading.Reads g state.isInside ((readLine g state content).code content)
      (readLine g state content).kind := by
  rw [code_of_not_directive h, kind_of_not_directive h]
  exact Reading.reads_kindOf hg state.isInside _

theorem code_prefix_content (reading : Reading) (content : Text) : reading.code content <+: content :=
  ⟨content.dropBytes reading.codeSize, Text.takeBytes_append_dropBytes content reading.codeSize⟩

theorem head_of_head_code {reading : Reading} {c : Char}
    (h : (reading.code content).head? = some c) : content.head? = some c := by
  obtain ⟨cut, hCut⟩ := code_prefix_content reading content
  rw [← hCut, List.head?_append]
  exact congrArg (Option.or · _) h

theorem mem_of_mem_code {reading : Reading} {c : Char} (h : c ∈ reading.code content) :
    c ∈ content :=
  (code_prefix_content reading content).subset h

/-- A line has a comment when something of it was cut off; what is left then ends tightly. -/
theorem code_cases (h : g.isDirective content = false) :
    let reading := readLine g state content
    (reading.hasComment = false ∧ reading.code content = content ∧
        Comment.find? g.commentMarker content = none) ∨
      (reading.hasComment = true ∧ (reading.code content).trimEnd = reading.code content ∧
        (Comment.find? g.commentMarker content).isSome) := by
  obtain ⟨cut, hCut, hCases⟩ := Comment.exists_strip g.commentMarker content
  have hSize : (readLine g state content).hasComment = decide (0 < cut.size) := by
    have hContent := congrArg Text.size hCut
    rw [Text.size_append] at hContent
    rw [readLine_of_not_directive h, decide_eq_decide]
    omega
  simp only [code_of_not_directive h, hSize]
  rcases hCases with ⟨hFind, rfl⟩ | ⟨hFind, hne, hTrim⟩
  · exact Or.inl ⟨rfl, by simpa using hCut.symm, hFind⟩
  · exact Or.inr ⟨by simpa using Text.size_pos_of_ne_nil hne, hTrim, hFind⟩

end Line

end ErDiagram
