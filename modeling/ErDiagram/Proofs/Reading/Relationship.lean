import ErDiagram.Proofs.Name
import ErDiagram.Reading

/-!
What a relationship line looks like. A layout names every part of such a line with the blanks around
it; the parts are found in a code exactly where a layout of that code puts them.
-/

namespace ErDiagram

namespace Reading

theorem nonempty_eq_some {n m : Nat} (h : n < m) : nonempty ⟨n, m⟩ = some ⟨n, m⟩ := by
  rw [nonempty, if_pos h]

/-- The tight part of a text that is not blank is found at its span. -/
theorem nonempty_trimSpan_parts {t a lead core trail c : Text} (hLead : lead.isAllBlank)
    (hCore : Text.Tight core) (hTrail : trail.isAllBlank) {n m : Nat}
    (h : t = a ++ (lead ++ core ++ trail) ++ c) (hn : n = a.size)
    (hm : m = a.size + (lead ++ core ++ trail).size) :
    nonempty (t.trimSpan ⟨n, m⟩) =
      some ⟨(a ++ lead).size, (a ++ lead).size + core.size⟩ := by
  have := Text.size_pos_of_ne_nil hCore.ne_nil
  rw [Text.trimSpan_parts hLead hCore hTrail h hn hm, Text.size_append]
  exact nonempty_eq_some (by omega)

theorem nonempty_trimSpan_of_blank {t a b c : Text} (hBlank : b.isAllBlank) {n m : Nat}
    (h : t = a ++ b ++ c) (hn : n = a.size) (hm : m = a.size + b.size) :
    nonempty (t.trimSpan ⟨n, m⟩) = none := by
  have := Text.trimSpan_of_blank hBlank h hn hm
  rw [nonempty, if_neg (by omega)]

end Reading

/-- How a relationship goes on behind its right side: with nothing, with a colon that no label
follows, or with a colon and a label. -/
inductive LabelPlace : Text → Option Text → Text → Prop where
  | absent {blanks : Text} (hBlanks : blanks.isAllBlank) : LabelPlace blanks none []
  | blank {a b : Text} (ha : a.isAllBlank) (hb : b.isAllBlank) : LabelPlace (a ++ ':' :: b) none []
  | label {a b label trail : Text} (ha : a.isAllBlank) (hb : b.isAllBlank)
      (hLabel : Text.Tight label) (hTrail : trail.isAllBlank) :
      LabelPlace (a ++ ':' :: b) (some label) trail

theorem LabelPlace.tight {bridge label trail : Text} (h : LabelPlace bridge (some label) trail) :
    Text.Tight label := by
  cases h with
  | label ha hb hLabel hTrail => exact hLabel

theorem LabelPlace.relabel {bridge label new trail : Text} (h : LabelPlace bridge (some label) trail)
    (hNew : Text.Tight new) : LabelPlace bridge (some new) trail := by
  cases h with
  | label ha hb hLabel hTrail => exact .label ha hb hNew hTrail

/-- Without a colon no label follows. -/
theorem LabelPlace.eq_none {bridge trail : Text} {label? : Option Text}
    (h : LabelPlace bridge label? trail) (hColon : ':' ∉ bridge) : label? = none := by
  cases h with
  | absent hBlanks => rfl
  | blank ha hb => rfl
  | label ha hb hLabel hTrail => exact absurd (by simp) hColon

/-- The parts of a relationship line and what stands between them. `bridge` leads from the right side
to the label. -/
structure RelationshipLayout where
  lead : Text
  left : Text
  leftGap : Text
  operator : Text
  rightGap : Text
  right : Text
  bridge : Text
  label? : Option Text
  trail : Text

namespace RelationshipLayout

variable (s : RelationshipLayout)

/-- The text in front of the operator. -/
def beforeOperator : Text :=
  s.lead ++ s.left ++ s.leftGap

/-- The text in front of the right side. -/
def beforeRight : Text :=
  s.beforeOperator ++ s.operator ++ s.rightGap

/-- The text in front of the label, or of its place. -/
def beforeLabel : Text :=
  s.beforeRight ++ s.right ++ s.bridge

/-- The text from the label on. -/
def fromLabel : Text :=
  s.label?.getD [] ++ s.trail

def text : Text :=
  s.beforeLabel ++ s.fromLabel

/-- Where the parts stand. -/
def parts : RelationshipParts where
  left := ⟨s.lead.size, s.lead.size + s.left.size⟩
  operator := ⟨s.beforeOperator.size, s.beforeOperator.size + s.operator.size⟩
  right := ⟨s.beforeRight.size, s.beforeRight.size + s.right.size⟩
  label? := s.label?.map fun label => ⟨s.beforeLabel.size, s.beforeLabel.size + label.size⟩

/-- The parts are tight, blanks surround them, and the operator is the leftmost one. -/
structure Valid (g : Grammar) : Prop where
  lead : s.lead.isAllBlank
  left : Text.Tight s.left
  leftGap : s.leftGap.isAllBlank
  operator : g.Leftmost s.beforeOperator s.operator (s.rightGap ++ s.right ++ s.bridge ++ s.fromLabel)
  rightGap : s.rightGap.isAllBlank
  right : Text.Tight s.right
  colon : ':' ∉ s.right
  place : LabelPlace s.bridge s.label? s.trail

/-- The layout with other names and another label in the places of its own. -/
def revised (left right : Text) (label? : Option Text) : RelationshipLayout :=
  { s with left, right, label? }

/-- The text, part by part. -/
theorem text_eq :
    s.text = s.lead ++ (s.left ++ (s.leftGap ++ (s.operator ++ (s.rightGap ++ (s.right ++
      (s.bridge ++ (s.label?.getD [] ++ s.trail))))))) := by
  simp [text, beforeLabel, beforeRight, beforeOperator, fromLabel]

theorem text_eq_operator :
    s.text = s.beforeOperator ++ s.operator ++ (s.rightGap ++ s.right ++ s.bridge ++ s.fromLabel) := by
  simp [text, beforeLabel, beforeRight]

theorem slice_left : s.text.slice s.parts.left = s.left :=
  Text.slice_of_eq (c := s.leftGap ++ (s.operator ++ (s.rightGap ++ s.right ++ s.bridge ++
    s.fromLabel))) (by simp [text_eq_operator, beforeOperator]) rfl rfl

theorem slice_operator : s.text.slice s.parts.operator = s.operator :=
  Text.slice_of_eq s.text_eq_operator rfl rfl

theorem slice_right : s.text.slice s.parts.right = s.right :=
  Text.slice_of_eq (a := s.beforeRight) (c := s.bridge ++ s.fromLabel) (by simp [text, beforeLabel])
    rfl rfl

theorem slice_label {label : Text} (h : s.label? = some label) :
    s.text.slice ⟨s.beforeLabel.size, s.beforeLabel.size + label.size⟩ = label :=
  Text.slice_of_eq (c := s.trail) (by simp [text, fromLabel, h]) rfl rfl

theorem slice_label? : s.parts.label?.map s.text.slice = s.label? := by
  cases h : s.label? with
  | none => rw [parts, h]; rfl
  | some label =>
      rw [parts, h]
      exact congrArg some (s.slice_label h)

section Revised

variable {s : RelationshipLayout} {g : Grammar} {left right : Text} {label? : Option Text}

theorem underscored_revised (hLeft : Underscored s.left left) (hRight : Underscored s.right right)
    (label? : Option Text) :
    Underscored (s.beforeRight ++ s.right) ((s.revised left right label?).beforeRight ++ right) :=
  (((((Underscored.refl s.lead).append hLeft).append (.refl s.leftGap)).append
    (.refl s.operator)).append (.refl s.rightGap)).append hRight

/-- What has no underscore and starts no later than the operator stood there before the revision, too,
unless it reaches the label. -/
theorem Valid.exists_of_revised (h : s.Valid g) (hLeft : Underscored s.left left)
    (hRight : Underscored s.right right) (hPlace : LabelPlace s.bridge label? s.trail)
    {x pattern y : Text} (hUnderscore : '_' ∉ pattern) (hReach : ¬ g.ReachesLabel pattern)
    (hText : x ++ pattern ++ y = (s.revised left right label?).text)
    (hFront : x.length ≤ (s.revised left right label?).beforeOperator.length) :
    ∃ x' y', x' ++ pattern ++ y' = s.text ∧ x'.length = x.length := by
  have hUnderscored := underscored_revised hLeft hRight label?
  by_cases hMem : ':' ∈ s.bridge
  · obtain ⟨a, b, hBridge, -⟩ := List.eq_append_cons_of_mem hMem
    have hSplit : x ++ pattern ++ y = (s.revised left right label?).beforeRight ++ right ++ a ++
        ':' :: (b ++ (s.revised left right label?).fromLabel) := by
      have hNew : (s.revised left right label?).text =
          (s.revised left right label?).beforeRight ++ right ++ s.bridge ++
            (s.revised left right label?).fromLabel := rfl
      rw [hText, hNew, hBridge]
      simp
    obtain ⟨v, hv⟩ : x <+: (s.revised left right label?).beforeOperator :=
      List.prefix_of_prefix_length_le ⟨pattern ++ y, by rw [← List.append_assoc, hText]⟩
        ⟨_, ((s.revised left right label?).text_eq_operator.trans (List.append_assoc ..)).symm⟩ hFront
    have hStart : (s.revised left right label?).beforeRight ++ right ++ a =
        x ++ (v ++ s.operator ++ (s.rightGap ++ right ++ a)) := by
      rw [beforeRight, ← hv]
      simp [revised]
    obtain ⟨w, hw, ⟨z, rfl⟩ | ⟨z, hz⟩⟩ := Text.fits_or_reaches hSplit (by simp [hStart])
    · rw [← List.append_assoc] at hw
      obtain ⟨x', y', hOld, hLength⟩ :=
        (hw ▸ hUnderscored.append (.refl a)).exists_of_parts hUnderscore
      refine ⟨x', y' ++ ':' :: (b ++ s.fromLabel), ?_, hLength⟩
      rw [← List.append_assoc, ← hOld, text, beforeLabel, hBridge]
      simp
    · -- In front of the colon it holds the operator.
      have hInfix : s.operator <:+: w :=
        ⟨v, s.rightGap ++ right ++ a, List.append_cancel_left (hStart.symm.trans hw)⟩
      refine absurd (hz ▸ Grammar.reachesLabel_of_colon ?_ z) hReach
      rw [← Bool.not_eq_false, Grammar.hasOperator_eq_false_iff]
      exact fun hNone => hNone s.operator h.operator.mem hInfix
  · have hSame : (s.revised left right label?).text =
        (s.revised left right label?).beforeRight ++ right ++ (s.bridge ++ s.fromLabel) := by
      have hNone : label? = s.label? := (hPlace.eq_none hMem).trans (h.place.eq_none hMem).symm
      rw [hNone]
      exact List.append_assoc ..
    rw [hSame] at hText
    obtain ⟨x', y', hOld, hLength⟩ :=
      (hText ▸ hUnderscored.append (.refl (s.bridge ++ s.fromLabel))).exists_of_parts hUnderscore
    refine ⟨x', y', ?_, hLength⟩
    rw [← hOld, ← List.append_assoc]
    rfl

/-- Names with underscores for hyphens and a label where one stands leave the layout valid. -/
theorem Valid.revised (hInert : g.Inert) (h : s.Valid g) (hLeft : Underscored s.left left)
    (hRight : Underscored s.right right) (hPlace : LabelPlace s.bridge label? s.trail) :
    (s.revised left right label?).Valid g where
  lead := h.lead
  left := hLeft.tight h.left
  leftGap := h.leftGap
  operator := by
    have hBefore : (s.revised left right label?).beforeOperator.length = s.beforeOperator.length :=
      (((Underscored.refl s.lead).append hLeft).append (.refl s.leftGap)).length_eq
    refine h.operator.of_stands fun x o y ho hxy hShort => ?_
    have hText : x ++ o ++ y = (s.revised left right label?).text :=
      hxy.trans (s.revised left right label?).text_eq_operator.symm
    obtain ⟨x', y', hOld, hLength⟩ := h.exists_of_revised hLeft hRight hPlace
      (hInert.operator_underscore o ho) (hInert.operator_label o ho) hText hShort
    rw [← hBefore, ← hLength]
    exact ⟨x', y', by rw [hOld, s.text_eq_operator], hLength ▸ hShort, id⟩
  rightGap := h.rightGap
  right := hRight.tight h.right
  colon := fun hMem => h.colon (hRight.mem_of_mem hMem (by decide))
  place := hPlace

end Revised

theorem Valid.trim_beforeOperator {s : RelationshipLayout} {g : Grammar} (h : s.Valid g) :
    s.beforeOperator.trim = s.left :=
  Text.trim_parts h.lead h.left h.leftGap

theorem Valid.not_blank {s : RelationshipLayout} {g : Grammar} (h : s.Valid g) :
    s.beforeOperator.isAllBlank = false ∧
      Text.isAllBlank ((s.rightGap ++ s.right ++ s.bridge ++ s.fromLabel).takeWhile (· != ':')) =
        false := by
  have hNotBlank {a b c : Text} (hb : Text.Tight b) :
      Text.isAllBlank (a ++ b ++ c) = false := by
    rw [Text.isAllBlank_append, Text.isAllBlank_append, hb.not_isAllBlank, Bool.and_false,
      Bool.false_and]
  refine ⟨hNotBlank h.left, ?_⟩
  have hNoColon : ∀ c ∈ s.rightGap ++ s.right, (c != ':') = true := by
    intro c hc
    rw [bne_iff_ne]
    rintro rfl
    rcases List.mem_append.mp hc with hGap | hRight
    · exact Text.not_mem_of_blank h.rightGap rfl hGap
    · exact h.colon hRight
  rw [List.append_assoc _ s.bridge, List.takeWhile_append_of_pos hNoColon]
  exact hNotBlank h.right

end RelationshipLayout

namespace Reading

/-- The colon behind an operator, in a text cut behind the operator. -/
theorem colon?_of_mem {front a b : Text} {operator : Span} (hFront : operator.stop = front.size)
    (ha : ':' ∉ a) : colon? (front ++ (a ++ ':' :: b)) operator = some (front.size + a.size) := by
  rw [colon?, hFront, Text.dropBytes_size_append, Text.find?_singleton _ _ _ ha]
  rfl

theorem colon?_of_not_mem {front rest : Text} {operator : Span}
    (hFront : operator.stop = front.size) (h : ':' ∉ rest) :
    colon? (front ++ rest) operator = none := by
  rw [colon?, hFront, Text.dropBytes_size_append, (Text.find?_singleton_eq_none _ _).mpr h]
  rfl

/-- The right side of an operator, up to a colon. -/
def rightSpan? (code : Text) (operator : Span) : Option Span :=
  nonempty (code.trimSpan ⟨operator.stop, (colon? code operator).getD code.size⟩)

/-- The label behind a colon. -/
def labelSpan? (code : Text) (operator : Span) : Option Span :=
  (colon? code operator).bind fun colon => nonempty (code.trimSpan ⟨colon + 1, code.size⟩)

/-- The parts of a relationship, once its operator is known. -/
theorem relationship?_eq {g : Grammar} {code : Text} {operator : Span}
    (h : g.findOperator? code = some operator) :
    relationship? g code =
      (nonempty (code.trimSpan ⟨0, operator.start⟩)).bind fun left =>
        (rightSpan? code operator).bind fun right =>
          some ⟨left, operator, right, labelSpan? code operator⟩ := by
  rw [relationship?, h]
  rfl

/-- A text that is not blank up to its first colon is a right side and what follows one. -/
theorem exists_place {rest : Text} (h : Text.isAllBlank (rest.takeWhile (· != ':')) = false) :
    ∃ rightGap right bridge label? trail,
      rest = rightGap ++ right ++ bridge ++ (label?.getD [] ++ trail) ∧
      Text.isAllBlank rightGap ∧ Text.Tight right ∧ ':' ∉ right ∧
      LabelPlace bridge label? trail := by
  by_cases hMem : ':' ∈ rest
  · obtain ⟨front, b, rfl, hFirst⟩ := List.eq_append_cons_of_mem hMem
    rw [Text.takeWhile_of_first hFirst] at h
    obtain ⟨gap, core, a, hGap, hCore, ha, rfl⟩ := Text.exists_tight h
    have hColon : ':' ∉ core := fun h => hFirst (by simp [h])
    cases hb : Text.isAllBlank b with
    | true => exact ⟨gap, core, a ++ ':' :: b, none, [], by simp, hGap, hCore, hColon, .blank ha hb⟩
    | false =>
        obtain ⟨blanks, label, trail, hBlanks, hLabel, hTrail, rfl⟩ := Text.exists_tight hb
        exact ⟨gap, core, a ++ ':' :: blanks, some label, trail, by simp, hGap, hCore, hColon,
          .label ha hBlanks hLabel hTrail⟩
  · rw [Text.takeWhile_of_not_mem hMem] at h
    obtain ⟨gap, core, blanks, hGap, hCore, hBlanks, rfl⟩ := Text.exists_tight h
    refine ⟨gap, core, blanks, none, [], by simp, hGap, hCore, ?_, .absent hBlanks⟩
    exact fun h => hMem (by simp [h])

section BehindOperator

variable {code front : Text} {operator : Span}

theorem spans_of_colon {a b : Text} (hStop : operator.stop = front.size)
    (hCode : code = front ++ (a ++ ':' :: b)) (ha : ':' ∉ a) :
    rightSpan? code operator = nonempty (code.trimSpan ⟨front.size, front.size + a.size⟩) ∧
      labelSpan? code operator =
        nonempty (code.trimSpan ⟨(front ++ (a ++ [':'])).size, code.size⟩) := by
  have hColon : colon? code operator = some (front.size + a.size) := by
    rw [hCode, colon?_of_mem hStop ha]
  refine ⟨by rw [rightSpan?, hColon, hStop]; rfl, ?_⟩
  rw [labelSpan?, hColon, Option.bind_some, Text.size_append, Text.size_append, ← Nat.add_assoc]
  rfl

theorem spans_of_no_colon {rest : Text} (hStop : operator.stop = front.size)
    (hCode : code = front ++ rest) (h : ':' ∉ rest) :
    rightSpan? code operator = nonempty (code.trimSpan ⟨front.size, code.size⟩) ∧
      labelSpan? code operator = none := by
  have hColon : colon? code operator = none := by rw [hCode, colon?_of_not_mem hStop h]
  exact ⟨by rw [rightSpan?, hColon, hStop]; rfl, by rw [labelSpan?, hColon]; rfl⟩

/-- Where the right side and the label are found. -/
theorem spans_of_place {rightGap right bridge trail : Text} {label? : Option Text}
    (hStop : operator.stop = front.size)
    (hCode : code = front ++ (rightGap ++ right ++ bridge ++ (label?.getD [] ++ trail)))
    (hGap : rightGap.isAllBlank) (hRight : Text.Tight right) (hColon : ':' ∉ right)
    (hPlace : LabelPlace bridge label? trail) :
    rightSpan? code operator =
        some ⟨(front ++ rightGap).size, (front ++ rightGap).size + right.size⟩ ∧
      labelSpan? code operator = label?.map fun label =>
        ⟨(front ++ rightGap ++ right ++ bridge).size,
          (front ++ rightGap ++ right ++ bridge).size + label.size⟩ := by
  have hNoColon {t : Text} (h : t.isAllBlank) : ':' ∉ t := Text.not_mem_of_blank h rfl
  cases hPlace with
  | absent hBlanks =>
      have hNone : ':' ∉ rightGap ++ right ++ bridge := by
        simp [hNoColon hGap, hColon, hNoColon hBlanks]
      obtain ⟨hR, hL⟩ := spans_of_no_colon hStop (by simpa using hCode) hNone
      rw [hR, hL]
      refine ⟨nonempty_trimSpan_parts hGap hRight hBlanks (c := []) ?_ rfl ?_, rfl⟩
      · simpa using hCode
      · simp [hCode]
  | @blank a b ha hb =>
      have hNone : ':' ∉ rightGap ++ right ++ a := by
        simp [hNoColon hGap, hColon, hNoColon ha]
      have hSplit : code = front ++ (rightGap ++ right ++ a ++ ':' :: b) := by simpa using hCode
      obtain ⟨hR, hL⟩ := spans_of_colon hStop hSplit hNone
      rw [hR, hL]
      refine ⟨nonempty_trimSpan_parts hGap hRight ha (c := ':' :: b) (by simpa using hCode) rfl rfl,
        nonempty_trimSpan_of_blank hb (c := []) (by simpa using hCode) rfl ?_⟩
      simp [hCode]
      omega
  | @label a b label trail ha hb hLabel hTrail =>
      have hNone : ':' ∉ rightGap ++ right ++ a := by
        simp [hNoColon hGap, hColon, hNoColon ha]
      have hSplit : code = front ++ (rightGap ++ right ++ a ++ ':' :: (b ++ label ++ trail)) := by
        simpa using hCode
      obtain ⟨hR, hL⟩ := spans_of_colon hStop hSplit hNone
      rw [hR, hL]
      refine ⟨nonempty_trimSpan_parts hGap hRight ha (c := ':' :: (b ++ label ++ trail))
        (by simpa using hCode) rfl rfl, ?_⟩
      refine (nonempty_trimSpan_parts hb hLabel hTrail (c := []) (by simpa using hCode) rfl ?_).trans ?_
      · simp [hCode]
        omega
      · simp

/-- What is found behind an operator is not blank up to a colon. -/
theorem not_blank_of_rightSpan? {rest : Text} {right : Span} (hStop : operator.stop = front.size)
    (hCode : code = front ++ rest) (hRight : rightSpan? code operator = some right) :
    Text.isAllBlank (rest.takeWhile (· != ':')) = false := by
  apply Bool.eq_false_iff.mpr
  intro hBlank
  by_cases hMem : ':' ∈ rest
  · obtain ⟨a, b, rfl, ha⟩ := List.eq_append_cons_of_mem hMem
    obtain ⟨hR, -⟩ := spans_of_colon hStop hCode ha
    rw [Text.takeWhile_of_first ha] at hBlank
    rw [hR, nonempty_trimSpan_of_blank hBlank (c := ':' :: b) (by simpa using hCode) rfl rfl] at hRight
    cases hRight
  · obtain ⟨hR, -⟩ := spans_of_no_colon hStop hCode hMem
    rw [Text.takeWhile_of_not_mem hMem] at hBlank
    rw [hR, nonempty_trimSpan_of_blank hBlank (c := []) (by simpa using hCode) rfl
      (by simp [hCode])] at hRight
    cases hRight

end BehindOperator

/-- A layout shows its parts, once its operator is the one that is found. -/
theorem relationship?_of_operator {g : Grammar} {s : RelationshipLayout} (h : s.Valid g)
    (hOperator : g.findOperator? s.text = some s.parts.operator) :
    relationship? g s.text = some s.parts := by
  have hText : s.text = [] ++ (s.lead ++ s.left ++ s.leftGap) ++
      (s.operator ++ (s.rightGap ++ s.right ++ s.bridge ++ s.fromLabel)) := by
    rw [s.text_eq_operator, List.append_assoc]
    rfl
  have hLeft : nonempty (s.text.trimSpan ⟨0, s.parts.operator.start⟩) = some s.parts.left :=
    nonempty_trimSpan_parts h.lead h.left h.leftGap hText rfl (Nat.zero_add _).symm
  have hStop : s.parts.operator.stop = (s.beforeOperator ++ s.operator).size :=
    (Text.size_append _ _).symm
  obtain ⟨hRight, hLabel⟩ :=
    spans_of_place hStop s.text_eq_operator h.rightGap h.right h.colon h.place
  rw [relationship?_eq hOperator, hLeft, hRight, hLabel]
  rfl

theorem relationship?_of_valid {g : Grammar} {s : RelationshipLayout} (h : s.Valid g) :
    relationship? g s.text = some s.parts := by
  refine relationship?_of_operator h ?_
  rw [s.text_eq_operator]
  exact Grammar.findOperator?_eq h.operator

/-- An operator between two texts, neither of which is blank as far as it counts, has a layout. -/
theorem exists_valid_of_leftmost {g : Grammar} {before operator after : Text}
    (hLeft : g.Leftmost before operator after) (hBefore : before.isAllBlank = false)
    (hAfter : Text.isAllBlank (after.takeWhile (· != ':')) = false) :
    ∃ s : RelationshipLayout, s.Valid g ∧ s.beforeOperator = before ∧ s.operator = operator ∧
      s.text = before ++ operator ++ after := by
  obtain ⟨lead, left, leftGap, hLead, hLeftTight, hLeftGap, rfl⟩ := Text.exists_tight hBefore
  obtain ⟨rightGap, right, bridge, label?, trail, rfl, hRightGap, hRight, hColon, hPlace⟩ :=
    exists_place hAfter
  exact ⟨⟨lead, left, leftGap, operator, rightGap, right, bridge, label?, trail⟩,
    ⟨hLead, hLeftTight, hLeftGap, hLeft, hRightGap, hRight, hColon, hPlace⟩, rfl, rfl,
    RelationshipLayout.text_eq_operator _⟩

/-- Parts that are found have a layout, whatever the operators of the grammar are. -/
theorem exists_valid {g : Grammar} {code : Text} {parts : RelationshipParts}
    (h : relationship? g code = some parts) :
    ∃ s : RelationshipLayout, s.Valid g ∧ code = s.text ∧ parts = s.parts := by
  cases hFind : g.findOperator? code with
  | none => rw [relationship?, hFind] at h; cases h
  | some operatorSpan =>
      obtain ⟨before, operator, after, hCode, hLeft, rfl⟩ := Grammar.exists_leftmost hFind
      have hParts := h
      rw [relationship?_eq hFind, Option.bind_eq_some_iff] at hParts
      obtain ⟨left, hLeftSpan, hRest⟩ := hParts
      rw [Option.bind_eq_some_iff] at hRest
      obtain ⟨right, hRightSpan, -⟩ := hRest
      have hBefore : before.isAllBlank = false := by
        apply Bool.eq_false_iff.mpr
        intro hBlank
        have hNone : nonempty (code.trimSpan ⟨0, before.size⟩) = none :=
          nonempty_trimSpan_of_blank hBlank (a := []) (c := operator ++ after) (by simp [hCode]) rfl
            (Nat.zero_add _).symm
        cases hLeftSpan.symm.trans hNone
      have hAfter := not_blank_of_rightSpan? (Text.size_append _ _).symm hCode hRightSpan
      obtain ⟨s, hValid, hFront, hOperator, hText⟩ := exists_valid_of_leftmost hLeft hBefore hAfter
      have hFound : g.findOperator? s.text = some s.parts.operator := by
        rw [hText, ← hCode, hFind, RelationshipLayout.parts, hFront, hOperator]
      have hSame := relationship?_of_operator hValid hFound
      rw [hText, ← hCode, h] at hSame
      exact ⟨s, hValid, hCode.trans hText.symm, Option.some.inj hSame⟩

/-- The parts of a relationship are found exactly where a layout puts them. -/
theorem relationship?_eq_some_iff {g : Grammar} {code : Text} {parts : RelationshipParts} :
    relationship? g code = some parts ↔
      ∃ s : RelationshipLayout, s.Valid g ∧ code = s.text ∧ parts = s.parts := by
  refine ⟨exists_valid, ?_⟩
  rintro ⟨s, hValid, rfl, rfl⟩
  exact relationship?_of_valid hValid

end Reading

end ErDiagram
