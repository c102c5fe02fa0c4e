import ErDiagram.Name
import ErDiagram.Proofs.Reading.Kind
import ErDiagram.Proofs.Token.Closing

/-!
The parts of an attribute line, told by its tokens, and what becomes of them when a split name is put
together. Closing the gaps in a name moves no other part and makes the line nothing but an attribute,
as long as the joined name is neither an operator nor a key modifier.
-/

namespace ErDiagram

/-- The texts of the parts of an attribute, with its name in one piece. -/
structure AttributeTexts where
  dataType? : Option Text
  name : Text
  modifiers : List Text
  remark? : Option Text
deriving DecidableEq

def AttributeParts.texts (parts : AttributeParts) (code : Text) : AttributeTexts where
  dataType? := parts.dataType?.map code.slice
  name := AttributeName.join (parts.name.map code.slice)
  modifiers := parts.modifiers.map code.slice
  remark? := parts.remark?.map code.slice

namespace Reading

/-- Whether the text of a token makes it a key modifier. -/
def isModifierText (g : Grammar) (text : Text) : Bool :=
  !(text.head? == some '"') && g.isKeyModifier text

/-- The tokens of an attribute line: its type, the pieces of its name, and what follows the name. -/
structure AttributeTokens (g : Grammar) (code : Text) (dataType : Token)
    (pieces trailing : List Token) : Prop where
  layout : Token.Layout 0 code (dataType :: (pieces ++ trailing))
  pieces : ∀ piece ∈ pieces, isNamePiece g piece = true
  trailing : ∀ token, trailing.head? = some token → isNamePiece g token = false

section Tokens

variable {g : Grammar} {code : Text} {dataType : Token} {pieces trailing : List Token}

theorem exists_attributeTokens (g : Grammar) (code : Text) :
    tokenize code = [] ∨ ∃ dataType pieces trailing,
      AttributeTokens g code dataType pieces trailing := by
  have hLayout := Token.layout_tokenize code
  cases hTokens : tokenize code with
  | nil => exact Or.inl rfl
  | cons dataType rest =>
      refine Or.inr ⟨dataType, rest.takeWhile (isNamePiece g), rest.dropWhile (isNamePiece g),
        ?_, fun piece hMem => List.mem_takeWhile_imp hMem, fun token hHead => ?_⟩
      · rwa [List.takeWhile_append_dropWhile, ← hTokens]
      · have hNot := List.head?_dropWhile_not (isNamePiece g) rest
        simpa [hHead] using hNot

/-- The parts of an attribute are read off its tokens. -/
theorem AttributeTokens.parts_eq (h : AttributeTokens g code dataType pieces trailing) :
    attributeParts g code =
      { dataType? := some dataType.span
        name := pieces.map Token.span
        modifiers := (trailing.filter fun token => isModifierText g token.text).map Token.span
        remark? := (trailing.find? Token.isQuoted).map Token.span } := by
  have hTokens : tokenize code = dataType :: (pieces ++ trailing) := h.layout.scan_eq
  have hTrailing : trailing.takeWhile (isNamePiece g) = [] ∧
      trailing.dropWhile (isNamePiece g) = trailing := by
    cases trailing with
    | nil => exact ⟨rfl, rfl⟩
    | cons token trailing =>
        have hToken := h.trailing token rfl
        exact ⟨List.takeWhile_cons_of_neg (by simp [hToken]),
          List.dropWhile_cons_of_neg (by simp [hToken])⟩
  rw [attributeParts, hTokens]
  simp only [List.takeWhile_append_of_pos h.pieces, List.dropWhile_append_of_pos h.pieces,
    hTrailing.1, hTrailing.2, List.append_nil]
  rfl

theorem AttributeTokens.slice_map (h : AttributeTokens g code dataType pieces trailing)
    {tokens : List Token} (hTokens : ∀ token ∈ tokens, token ∈ dataType :: (pieces ++ trailing)) :
    (tokens.map Token.span).map code.slice = tokens.map Token.text := by
  rw [List.map_map]
  exact List.map_congr_left fun token hMem =>
    h.layout.slice_of_mem (hTokens token hMem)

/-- The texts of the parts are those of the tokens. -/
theorem AttributeTokens.texts_eq (h : AttributeTokens g code dataType pieces trailing) :
    (attributeParts g code).texts code =
      { dataType? := some dataType.text
        name := pieces.flatMap Token.text
        modifiers := (trailing.map Token.text).filter (isModifierText g)
        remark? := (trailing.map Token.text).find? (·.head? == some '"') } := by
  have hTrailing {token : Token} (hMem : token ∈ trailing) :
      token ∈ dataType :: (pieces ++ trailing) := by simp [hMem]
  have hDataType : code.slice dataType.span = dataType.text :=
    h.layout.slice_of_mem List.mem_cons_self
  have hName : (pieces.map Token.span).map code.slice = pieces.map Token.text :=
    h.slice_map fun token hMem => by simp [hMem]
  have hModifiers :
      ((trailing.filter fun token => isModifierText g token.text).map Token.span).map code.slice =
        (trailing.filter fun token => isModifierText g token.text).map Token.text :=
    h.slice_map fun token hMem => hTrailing (List.mem_filter.mp hMem).1
  have hRemark : ((trailing.find? Token.isQuoted).map Token.span).map code.slice =
      (trailing.find? Token.isQuoted).map Token.text := by
    cases hFind : trailing.find? Token.isQuoted with
    | none => rfl
    | some token =>
        exact congrArg some (h.layout.slice_of_mem (hTrailing (List.mem_of_find?_eq_some hFind)))
  rw [h.parts_eq]
  simp only [AttributeParts.texts, Option.map_some, hDataType, hName, hModifiers, hRemark,
    List.filter_map, List.find?_map]
  rfl

end Tokens

end Reading

/-- An attribute line with its name between what stands before it and behind. -/
structure NamePlace where
  dataType : Text
  gap : Text
  name : Text
  rest : Text

namespace NamePlace

def front (s : NamePlace) : Text :=
  s.dataType ++ s.gap

def text (s : NamePlace) : Text :=
  s.front ++ s.name ++ s.rest

def renamed (s : NamePlace) (name : Text) : NamePlace :=
  { s with name }

/-- The name stands in pieces that make up `joined` once the gaps between them are closed. -/
structure Splits (s : NamePlace) (joined : Text) : Prop where
  head : ∃ c, s.dataType.head? = some c ∧ isBlank c = false
  gap : isAllGap s.gap = true
  gap_ne_nil : s.gap ≠ []
  squeezed : Squeezed s.name joined
  shorter : joined.length < s.name.length
  last : ∃ c, s.name.getLast? = some c ∧ joined.getLast? = some c
  rest : s.rest = [] ∨ ∃ c, s.rest.head? = some c ∧ isGap c = true

end NamePlace

namespace Reading

/-- Tokens with the same texts are pieces of names alike. -/
theorem isNamePiece_head {g : Grammar} {old new : List Token}
    (hTexts : new.map Token.text = old.map Token.text)
    (hOld : ∀ token, old.head? = some token → isNamePiece g token = false) :
    ∀ token, new.head? = some token → isNamePiece g token = false := by
  intro token hToken
  cases new with
  | nil => cases hToken
  | cons other new =>
      obtain rfl : other = token := Option.some.inj hToken
      cases old with
      | nil => cases hTexts
      | cons first old =>
          have hText : other.text = first.text := (List.cons.inj hTexts).1
          have hFirst := hOld first rfl
          rw [isNamePiece, Token.isQuoted] at hFirst ⊢
          rwa [hText]

/-- The tokens of an attribute line once the pieces of its name are joined. The joined name is a piece of
a name again, as long as it is no key modifier. -/
theorem AttributeTokens.merged {g : Grammar} {code : Text} {dataType first : Token}
    {more trailing : List Token} (h : AttributeTokens g code dataType (first :: more) trailing)
    (hModifier : g.isKeyModifier (Token.joined (first :: more)) = false) :
    let last := (first :: more).getLast (by simp)
    let closed := last.span.stop - (Token.merged first more).span.stop
    AttributeTokens g
      (code.takeBytes first.span.start ++ Token.joined (first :: more) ++
        code.dropBytes last.span.stop)
      dataType [Token.merged first more] (trailing.map (Token.moveUp closed)) := by
  intro last closed
  have hFirst : first.text ≠ [] := h.layout.text_ne_nil (by simp)
  refine ⟨?_, fun piece hPiece => ?_, isNamePiece_head (Token.map_text_moveUp _ _) h.trailing⟩
  · exact Token.layout_iff.mpr
      (@Token.tokenize_merged code [dataType] more trailing first h.layout.scan_eq)
  · obtain rfl := List.mem_singleton.mp hPiece
    have hOld := h.pieces first List.mem_cons_self
    rw [isNamePiece, Bool.and_eq_true] at hOld ⊢
    refine ⟨?_, by rw [Token.merged, hModifier]; rfl⟩
    rw [Token.isQuoted, Token.merged, Token.head_joined hFirst]
    exact hOld.1

/-- The tokens of an attribute line that has a name of several pieces, and the place of the name. -/
theorem AttributeTokens.exists_of_name {g : Grammar} {code : Text} {first second : Span}
    {more : List Span} (hName : (attributeParts g code).name = first :: second :: more) :
    ∃ dataType piece next pieces trailing,
      AttributeTokens g code dataType (piece :: next :: pieces) trailing ∧ first = piece.span ∧
        (second :: more).getLast (by simp) = ((piece :: next :: pieces).getLast (by simp)).span := by
  rcases exists_attributeTokens g code with hNone | ⟨dataType, pieces, trailing, h⟩
  · rw [attributeParts, hNone] at hName
    cases hName
  · rw [h.parts_eq] at hName
    obtain _ | ⟨piece, _ | ⟨next, pieces⟩⟩ := pieces
    · cases hName
    · cases hName
    obtain ⟨rfl, hMore⟩ := List.cons.inj hName
    obtain ⟨rfl, rfl⟩ := List.cons.inj hMore
    refine ⟨dataType, piece, next, pieces, trailing, h, rfl, ?_⟩
    rw [List.getLast_cons (List.cons_ne_nil next pieces)]
    exact @List.getLast_map _ _ Token.span (next :: pieces) (by simp)

/-- A name of several pieces has a place on its line; once it is joined, the line has the same parts
and a name of one piece. -/
theorem exists_place_of_pieces {g : Grammar} {code : Text} {first second : Span} {more : List Span}
    (hHead : ∀ c, code.head? = some c → isBlank c = false)
    (hName : (attributeParts g code).name = first :: second :: more) :
    ∃ (s : NamePlace) (joined : Text), s.Splits joined ∧ code = s.text ∧
      joined = AttributeName.join ((attributeParts g code).name.map code.slice) ∧
      first.start = s.front.size ∧
      ((second :: more).getLast (by simp)).stop = s.front.size + s.name.size ∧
      (g.isKeyModifier joined = false →
        (attributeParts g (s.renamed joined).text).texts (s.renamed joined).text =
          (attributeParts g code).texts code ∧
        (attributeParts g (s.renamed joined).text).name.length = 1) := by
  obtain ⟨typeToken, piece, next, pieces, trailing, h, rfl, hLastSpan⟩ :=
    AttributeTokens.exists_of_name hName
  have hTexts := h.texts_eq
  have hJoin : AttributeName.join ((attributeParts g code).name.map code.slice) =
      Token.joined (piece :: next :: pieces) := congrArg AttributeTexts.name hTexts
  have hType := (List.pairwise_cons.mp h.layout.pairwise_stop_lt).1 piece List.mem_cons_self
  have hLayout := h.layout
  rw [hLastSpan]
  cases hLayout with
  | @token _ gap₀ dataType rest₀ _ hGap₀ hDataType hSolid hBorder tail =>
      obtain ⟨gap, run, rest, rfl, hGap, hStart, hStop, -, hSqueezed, hSolid', hBorder', hLast,
        hShorter, -⟩ := tail.exists_run
      rw [List.append_assoc] at hHead
      obtain rfl := eq_nil_of_gap_append hGap₀ hHead
      rw [List.nil_append] at h hTexts hJoin hHead ⊢
      have hGapNe : gap ≠ [] := by
        rintro rfl
        rw [hStart] at hType
        exact Nat.lt_irrefl _ hType
      let s : NamePlace := ⟨dataType, gap, run, rest⟩
      have hText : s.text = dataType ++ (gap ++ run ++ rest) := by
        simp [s, NamePlace.text, NamePlace.front]
      have hFront : piece.span.start = s.front.size := by
        rw [hStart, NamePlace.front, Text.size_append, Text.size_nil, Nat.zero_add]
      have hBack : ((piece :: next :: pieces).getLast (by simp)).span.stop =
          s.front.size + run.size := by
        rw [hStop, ← hStart, hFront]
      refine ⟨s, Token.joined (piece :: next :: pieces), ?_, hText.symm, hJoin.symm, hFront, hBack,
        fun hModifier => ?_⟩
      · refine ⟨?_, hGap, hGapNe, hSqueezed, hShorter (List.cons_ne_nil _ _), hLast, ?_⟩
        · have hTypeHead := List.head?_eq_some_head hDataType
          exact ⟨_, hTypeHead, hHead _ (by simp [hTypeHead])⟩
        · exact hBorder'.imp id fun hOpen => hOpen.2
      · have hTake : (dataType ++ (gap ++ run ++ rest)).takeBytes piece.span.start = s.front :=
          Text.takeBytes_of_eq (hText.symm.trans (List.append_assoc ..)) hFront
        have hDrop : (dataType ++ (gap ++ run ++ rest)).dropBytes
            ((piece :: next :: pieces).getLast (by simp)).span.stop = s.rest :=
          Text.dropBytes_of_eq hText.symm (hBack.trans (Text.size_append ..).symm)
        have hMerged := h.merged hModifier
        simp only [hTake, hDrop] at hMerged
        have hNew : (s.renamed (Token.joined (piece :: next :: pieces))).text =
            s.front ++ Token.joined (piece :: next :: pieces) ++ s.rest := rfl
        rw [hNew]
        refine ⟨?_, by rw [hMerged.parts_eq]; rfl⟩
        rw [hMerged.texts_eq, hTexts, Token.map_text_moveUp]
        simp [Token.merged, Token.joined]

end Reading

/-- A text that goes on behind its first word has blanks at most. -/
theorem Text.isAllBlank_of_word {a gap b : Text} (ha : ∃ c, a.head? = some c ∧ isBlank c = false)
    (hGap : gap ≠ []) (hBlank : gap.isAllBlank) (hWord : (a ++ gap ++ b).trim.hasBlank = false) :
    b.isAllBlank := by
  apply Decidable.byContradiction
  intro hNot
  obtain ⟨c, hHead, hc⟩ := ha
  have hStart : Text.trimStart (a ++ gap ++ b) = a ++ gap ++ b := by
    apply Text.trimStart_eq_self
    intro d hd
    rw [List.append_assoc, List.head?_append, hHead] at hd
    exact Option.some.inj hd ▸ hc
  rw [Text.trim, hStart, Text.trimEnd_append_of_not_blank _ (by simpa using hNot),
    Text.hasBlank_eq_false_iff] at hWord
  obtain ⟨d, hd⟩ := List.exists_mem_of_ne_nil gap hGap
  have hFalse := hWord d (by simp [hd])
  rw [Text.isAllBlank_iff.mp hBlank d hd] at hFalse
  cases hFalse

namespace Grammar.WellFormed

variable {g : Grammar}

theorem not_isGap_of_mem (hg : g.WellFormed) {o : Text} (ho : o ∈ g.operators) {c : Char}
    (hc : c ∈ o) : isGap c = false :=
  isGap_of_not_blank (hg.not_isBlank_of_mem ho hc)

/-- Closing gaps takes no operator away. -/
theorem hasOperator_of_squeezed (hg : g.WellFormed) {old new : Text} (h : Squeezed old new)
    (hNew : g.hasOperator new = false) : g.hasOperator old = false := by
  rw [hasOperator_eq_false_iff] at hNew ⊢
  rintro o ho ⟨x, y, rfl⟩
  obtain ⟨x', y', hEq, -, -⟩ := h.exists_of_parts fun c hc => hg.not_isGap_of_mem ho hc
  exact hNew o ho ⟨x', y', hEq.symm⟩

end Grammar.WellFormed

namespace NamePlace.Splits

variable {g : Grammar} {s : NamePlace} {joined : Text}

theorem squeezed_text (h : s.Splits joined) : Squeezed s.text (s.renamed joined).text :=
  ((Squeezed.refl s.front).append h.squeezed).append (.refl s.rest)

/-- An operator on a line with a name that has none stands in front of the name or behind it. -/
theorem operator_cases (hg : g.WellFormed) (h : s.Splits joined) {name : Text}
    (hName : g.hasOperator name = false) {before o after : Text} (ho : o ∈ g.operators)
    (hText : before ++ o ++ after = (s.renamed name).text) :
    (∃ z, s.front = before ++ o ++ z ∧ after = z ++ (name ++ s.rest)) ∨
      ∃ z, before = s.front ++ name ++ z ∧ s.rest = z ++ o ++ after := by
  have hSplit : before ++ o ++ after = s.front ++ (name ++ s.rest) :=
    hText.trans (List.append_assoc ..)
  have hNotIn {c : Char} (hc : isGap c = true) : c ∉ o :=
    Text.not_mem_of_hasBlank (hg.operator o ho).hasBlank (isBlank_of_isGap hc)
  obtain ⟨d, hd⟩ : ∃ d, s.gap.getLast? = some d := ⟨_, List.getLast?_eq_some_getLast h.gap_ne_nil⟩
  have hFront : s.front.getLast? = some d := by rw [front, List.getLast?_append, hd, Option.some_or]
  have hGap : isGap d = true := List.all_eq_true.mp h.gap d (List.mem_of_getLast? hd)
  rcases Text.of_append_eq_append hSplit (Or.inr (Or.inr ⟨d, hFront, hNotIn hGap⟩)) with
    hIn | ⟨z, rfl, hRest⟩
  · exact Or.inl hIn
  · have hMeet : s.rest = [] ∨ (∃ c, s.rest.head? = some c ∧ c ∉ o) ∨
        ∃ c, name.getLast? = some c ∧ c ∉ o :=
      h.rest.imp id fun ⟨c, hHead, hc⟩ => Or.inl ⟨c, hHead, hNotIn hc⟩
    rcases Text.of_append_eq_append hRest.symm hMeet with ⟨w, hw, -⟩ | ⟨w, rfl, hw⟩
    · exact absurd ⟨z, w, hw.symm⟩ (Grammar.hasOperator_eq_false_iff.mp hName o ho)
    · exact Or.inr ⟨w, (List.append_assoc ..).symm, hw⟩

/-- The leftmost operator on a line is the leftmost one with another name, too, if no name has one. -/
theorem exists_leftmost (hg : g.WellFormed) (h : s.Splits joined) {name other : Text}
    (hName : g.hasOperator name = false) (hOther : g.hasOperator other = false)
    {before operator after : Text} (hLeft : g.Leftmost before operator after)
    (hText : before ++ operator ++ after = (s.renamed name).text) :
    ∃ before' after', (s.renamed other).text = before' ++ operator ++ after' ∧
      g.Leftmost before' operator after' ∧
      ((before' = before ∧ ∃ z, after' = z ++ (other ++ s.rest) ∧ after = z ++ (name ++ s.rest)) ∨
        after' = after ∧ ∃ z, before' = s.front ++ other ++ z ∧ before = s.front ++ name ++ z) := by
  have hPos {o : Text} (ho : o ∈ g.operators) : 0 < o.length :=
    List.length_pos_iff.mpr (hg.operator o ho).ne_nil
  have hFront {x o z : Text} (hx : s.front = x ++ o ++ z) :
      s.front.length = x.length + o.length + z.length := by simp [hx, Nat.add_assoc]
  -- With the other name every operator has a counterpart on the line that is given.
  rcases h.operator_cases hg hName hLeft.mem hText with ⟨z, hz, rfl⟩ | ⟨z, rfl, hz⟩
  · have hNew : (s.renamed other).text = before ++ operator ++ (z ++ (other ++ s.rest)) := by
      change s.front ++ other ++ s.rest = _
      rw [hz]
      simp
    refine ⟨before, z ++ (other ++ s.rest), hNew, ?_, Or.inl ⟨rfl, z, rfl, rfl⟩⟩
    refine hLeft.of_stands fun x o y ho hxy hShort => ?_
    rcases h.operator_cases hg hOther ho (hxy.trans hNew.symm) with ⟨w, hw, -⟩ | ⟨w, rfl, -⟩
    · refine ⟨x, w ++ (name ++ s.rest), ?_, hShort, id⟩
      rw [hText, ← List.append_assoc, ← hw, ← List.append_assoc]
      rfl
    · have := hFront hz
      have := hPos hLeft.mem
      simp only [List.length_append] at hShort
      omega
  · have hNew : (s.renamed other).text = s.front ++ other ++ z ++ operator ++ after := by
      change s.front ++ other ++ s.rest = _
      rw [hz]
      simp
    refine ⟨s.front ++ other ++ z, after, hNew, ?_, Or.inr ⟨rfl, z, rfl, rfl⟩⟩
    refine hLeft.of_stands fun x o y ho hxy hShort => ?_
    rcases h.operator_cases hg hOther ho (hxy.trans hNew.symm) with ⟨w, hw, -⟩ | ⟨w, rfl, hw⟩
    · have := hFront hw
      have := hPos ho
      refine ⟨x, w ++ (name ++ s.rest), ?_, ?_, fun _ => ?_⟩
      · rw [hText, ← List.append_assoc, ← hw, ← List.append_assoc]
        rfl
      · simp only [List.length_append]
        omega
      · simp only [List.length_append]
        omega
    · refine ⟨s.front ++ name ++ w, y, ?_, ?_, fun hLess => ?_⟩
      · rw [hText, List.append_assoc, List.append_assoc, ← List.append_assoc w, ← hw]
        rfl
      · simp only [List.length_append] at hShort ⊢
        omega
      · simp only [List.length_append] at hLess ⊢
        omega

theorem closingRelationship?_eq_none (hg : g.WellFormed) (h : s.Splits joined)
    (hJoined : g.hasOperator joined = false)
    (hNone : Reading.closingRelationship? g s.text = none) :
    Reading.closingRelationship? g (s.renamed joined).text = none := by
  rw [Option.eq_none_iff_forall_ne_some] at hNone ⊢
  intro parts hParts
  obtain ⟨t, hValid, hWord, hText, -⟩ := Reading.closingRelationship?_eq_some_iff.mp hParts
  rw [t.text_eq_operator] at hText
  obtain ⟨before, after, hOld, hLeft, hCases⟩ := h.exists_leftmost hg hJoined
    (hg.hasOperator_of_squeezed h.squeezed hJoined) hValid.operator hText.symm
  obtain ⟨hNotBlank, hRight⟩ := hValid.not_blank
  have hTrim : t.beforeOperator.trim = t.left := hValid.trim_beforeOperator
  -- The left side is the same word on both lines.
  have hSides : Squeezed before t.beforeOperator ∧ before.trim = t.left := by
    rcases hCases with ⟨rfl, -⟩ | ⟨-, z, rfl, hz⟩
    · exact ⟨.refl _, hTrim⟩
    · have hSqueezed := ((Squeezed.refl s.front).append h.squeezed).append (Squeezed.refl z)
      rw [← hz] at hSqueezed
      refine ⟨hSqueezed, ?_⟩
      have hBlank := isAllBlank_of_isAllGap h.gap
      have hTail : Text.isAllBlank (joined ++ z) := by
        refine Text.isAllBlank_of_word h.head h.gap_ne_nil hBlank (hWord ▸ ?_)
        rw [← hTrim, hz, front]
        simp
      have hTrimTail {tail : Text} (hAll : tail.isAllBlank) :
          (s.front ++ tail).trim = s.dataType.trim := by
        rw [front, List.append_assoc, Text.trim_append_of_blank _ (by simp [hBlank, hAll])]
      have hOldTail := (h.squeezed.append (.refl z)).isAllBlank_eq.trans hTail
      rw [List.append_assoc, hTrimTail hOldTail, ← hTrim, hz, List.append_assoc, hTrimTail hTail]
  have hAfter : Squeezed after (t.rightGap ++ t.right ++ t.bridge ++ t.fromLabel) := by
    rcases hCases with ⟨-, z, rfl, hz⟩ | ⟨rfl, -⟩
    · rw [hz]
      exact (Squeezed.refl z).append (h.squeezed.append (.refl s.rest))
    · exact .refl _
  have hAfterBlank := hAfter.isAllBlank_takeWhile (p := (· != ':')) fun c hc => by
    rw [bne_iff_ne]
    rintro rfl
    cases hc
  obtain ⟨u, hU, hUBefore, -, hUText⟩ := Reading.exists_valid_of_leftmost hLeft
    (hSides.1.isAllBlank_eq.trans hNotBlank) (hAfterBlank.trans hRight)
  refine hNone u.parts (Reading.closingRelationship?_eq_some_iff.mpr
    ⟨u, hU, ?_, by rw [hUText]; exact hOld, rfl⟩)
  rw [← hU.trim_beforeOperator, hUBefore, hSides.2, hWord]

theorem header?_eq_none (hg : g.WellFormed) (h : s.Splits joined)
    (hNone : Reading.header? g s.text = none) :
    Reading.header? g (s.renamed joined).text = none := by
  rw [Option.eq_none_iff_forall_ne_some] at hNone ⊢
  intro name hName
  obtain ⟨t, hValid, hText, -⟩ := Reading.exists_valid_header hg hName
  obtain ⟨body, trail, hOld, hBody, hTrail⟩ := h.squeezed_text.exists_of_char hText
  have hOperator := hg.hasOperator_of_squeezed h.squeezed_text (hText ▸ hValid.operator)
  have hBodyBlank := hBody.isAllBlank_takeWhile (p := (· != '[')) fun c hc => by
    rw [bne_iff_ne]
    rintro rfl
    cases hc
  rw [hOld] at hOperator hNone
  obtain ⟨span, hSpan⟩ := Reading.exists_header (hTrail.isAllBlank_eq.trans hValid.trail)
    (hBodyBlank.trans hValid.not_blank) hOperator
  exact hNone span hSpan

theorem trim_ne (h : s.Splits joined) (hBrace : s.text.trim ≠ ['\x7d']) :
    (s.renamed joined).text.trim ≠ ['\x7d'] := by
  intro hTrim
  obtain ⟨a, b, hText, ha, hb⟩ := (Text.trim_eq_singleton_iff rfl).mp hTrim
  obtain ⟨a', b', hOld, hA, hB⟩ := h.squeezed_text.exists_of_char hText
  refine hBrace ((Text.trim_eq_singleton_iff rfl).mpr ⟨a', b', hOld, ?_, ?_⟩)
  · rwa [hA.isAllBlank_eq]
  · rwa [hB.isAllBlank_eq]

/-- The line with the joined name is an attribute like the line before. -/
theorem reads (hg : g.WellFormed) (h : s.Splits joined) (hJoined : g.hasOperator joined = false)
    (hReads : Reading.Reads g true s.text (.entityAttribute (Reading.attributeParts g s.text))) :
    Reading.Reads g true (s.renamed joined).text
      (.entityAttribute (Reading.attributeParts g (s.renamed joined).text)) := by
  obtain ⟨-, hBrace, hRelationship, hHeader, -⟩ := hReads.attribute_inv
  exact .entityAttribute rfl (h.trim_ne hBrace)
    (h.closingRelationship?_eq_none hg hJoined hRelationship) (h.header?_eq_none hg hHeader)

end NamePlace.Splits

end ErDiagram
