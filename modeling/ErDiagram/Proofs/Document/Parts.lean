import ErDiagram.Proofs.Comment
import ErDiagram.Proofs.Document.Syntax
import ErDiagram.Proofs.Grammar.Modifier
import ErDiagram.Proofs.Label
import ErDiagram.Proofs.Name
import ErDiagram.Proofs.Token

/-!
What the parts of a document are made of. Names, words and modifiers are plain: they have none of the
characters that lines are read by. A text is quiet when no comment starts in it and it leaves no quotes
open.
-/

namespace ErDiagram

/-- What holds of the first 128 code points holds of every ASCII character. -/
theorem forall_ascii {P : Char → Prop} (hAll : ∀ n < 128, P (Char.ofNat n)) {c : Char}
    (hc : c.toNat < 128) : P c :=
  Char.ofNat_toNat c ▸ hAll c.toNat hc

theorem not_mem_of_all {p : Char → Bool} {t : Text} (h : ∀ c ∈ t, p c = true) {d : Char}
    (hd : p d = false) : d ∉ t := by
  intro hMem
  rw [h d hMem] at hd
  cases hd

theorem toNat_lt_of_isNameChar {c : Char} (h : isNameChar c = true) : c.toNat < 128 := by
  rw [isNameChar, isIdentChar] at h
  delta Char.isAlphanum Char.isAlpha Char.isUpper Char.isLower Char.isDigit at h
  simp only [Bool.or_eq_true, Bool.and_eq_true, decide_eq_true_eq, beq_iff_eq] at h
  have hBound {d : Char} (hd : d.toNat < 128) (hLe : c.val ≤ d.val) : c.toNat < 128 :=
    Nat.lt_of_le_of_lt (UInt32.le_iff_toNat_le.mp hLe) hd
  rcases h with (((hUpper | hLower) | hDigit) | rfl) | rfl
  · exact @hBound 'Z' (by decide) hUpper.2
  · exact @hBound 'z' (by decide) hLower.2
  · exact @hBound '9' (by decide) hDigit.2
  · decide
  · decide

theorem isNameChar_of_isIdentChar {c : Char} (h : isIdentChar c = true) : isNameChar c = true := by
  rw [isNameChar, h, Bool.true_or]

theorem isBlank_of_isNameChar {c : Char} (h : isNameChar c = true) : isBlank c = false :=
  forall_ascii (P := fun c => isNameChar c = true → isBlank c = false) (by decide +kernel)
    (toNat_lt_of_isNameChar h) h

theorem isIdentChar_toUpper {c : Char} (h : isIdentChar c = true) : isIdentChar c.toUpper = true :=
  forall_ascii (P := fun c => isIdentChar c = true → isIdentChar c.toUpper = true)
    (by decide +kernel) (toNat_lt_of_isNameChar (isNameChar_of_isIdentChar h)) h

/-- Upper case of a character that can stand in a word is the upper case of ASCII. -/
theorem upperCase_of_isIdentChar {c : Char} (h : isIdentChar c = true) : upperCase c = [c.toUpper] :=
  forall_ascii (P := fun c => isIdentChar c = true → upperCase c = [c.toUpper])
    (by decide +kernel) (toNat_lt_of_isNameChar (isNameChar_of_isIdentChar h)) h

namespace Document

/-- The characters that lists of key modifiers are made of. -/
def modifierAlphabet : List Char := [',', 'p', 'k', 'f', 'u', 'P', 'K', 'F', 'U']

theorem mem_of_mem_intercalate {d : Char} {items : List Text} {c : Char}
    (h : c ∈ [d].intercalate items) : c = d ∨ ∃ item ∈ items, c ∈ item := by
  induction items with
  | nil => simp at h
  | cons item rest ih =>
      cases rest with
      | nil => exact Or.inr ⟨item, List.mem_cons_self, by simpa using h⟩
      | cons other rest =>
          rw [List.intercalate_cons_cons, List.append_assoc, List.mem_append, List.mem_append] at h
          rcases h with hItem | hSep | hRest
          · exact Or.inr ⟨item, List.mem_cons_self, hItem⟩
          · exact Or.inl (List.mem_singleton.mp hSep)
          · rcases ih hRest with hSep | ⟨later, hLater, hc⟩
            · exact Or.inl hSep
            · exact Or.inr ⟨later, List.mem_cons_of_mem _ hLater, hc⟩

theorem mem_modifierAlphabet_of_toLower {c : Char} (h : c.toLower ∈ "pkfu".toList) :
    c ∈ modifierAlphabet := by
  have hAscii : "pkfu".toList.all (·.toNat < 128) = true := by decide
  have hLower : c.toLower.toNat < 128 := by simpa using List.all_eq_true.mp hAscii _ h
  have hLt : c.toNat < 128 := by
    rw [toNat_toLower] at hLower
    split at hLower <;> omega
  exact forall_ascii (P := fun c => c.toLower ∈ "pkfu".toList → c ∈ modifierAlphabet)
    (by decide +kernel) hLt h

/-- A list of key modifiers has nothing but their letters and commas. -/
theorem Modifier.chars (m : Modifier) : ∀ c ∈ m.text, c ∈ modifierAlphabet := by
  intro c hc
  obtain ⟨items, -, hItems, hText⟩ := Grammar.listsModifiers_of_isKeyModifier m.isModifier
  by_cases hComma : c = ','
  · rw [hComma]
    exact List.mem_cons_self
  have hList : c ∈ [','].intercalate items := by
    rcases hText with hText | hText
    · exact hText ▸ hc
    · rw [hText] at hc
      simpa [hComma] using hc
  rcases mem_of_mem_intercalate hList with hSep | ⟨item, hItem, hIn⟩
  · exact absurd hSep hComma
  · obtain ⟨modifier, hModifier, hSame⟩ := hItems item hItem
    have hLetters : ∀ modifier ∈ Grammar.standardModifiers, modifier.foldCase ⊆ "pkfu".toList := by
      decide
    apply mem_modifierAlphabet_of_toLower (hLetters modifier hModifier _)
    rw [Text.foldCase_eq_foldCase_iff.mpr hSame]
    exact List.mem_map_of_mem hIn

theorem Modifier.ne_nil (m : Modifier) : m.text ≠ [] := by
  intro hNil
  have h := m.isModifier
  rw [hNil] at h
  cases h

/-- The characters of names, of key modifiers and of gaps. -/
def isPlain (c : Char) : Bool :=
  isNameChar c || isGap c || c == ','

def Plain (t : Text) : Prop :=
  ∀ c ∈ t, isPlain c = true

namespace Plain

theorem append {a b : Text} (ha : Plain a) (hb : Plain b) : Plain (a ++ b) :=
  List.forall_mem_append.mpr ⟨ha, hb⟩

theorem flatMap {α : Type} {items : List α} {write : α → Text} (h : ∀ item ∈ items, Plain (write item)) :
    Plain (items.flatMap write) := by
  intro c hc
  obtain ⟨item, hItem, hIn⟩ := List.mem_flatMap.mp hc
  exact h item hItem c hIn

theorem of_nameChars {t : Text} (h : ∀ c ∈ t, isNameChar c = true) : Plain t := by
  intro c hc
  rw [isPlain, h c hc]
  rfl

theorem not_mem {t : Text} (h : Plain t) {c : Char} (hc : isPlain c = false) : c ∉ t :=
  not_mem_of_all h hc

end Plain

theorem Space.plain (gap : Space) : Plain gap.text := by
  intro c hc
  rw [isPlain, List.all_eq_true.mp gap.gap c hc, Bool.or_true]
  rfl

theorem Space.isAllBlank (gap : Space) : gap.text.isAllBlank = true :=
  isAllBlank_of_isAllGap gap.gap

theorem Name.plain (name : Name) : Plain name.text :=
  .of_nameChars name.chars

theorem Ident.plain (word : Ident) : Plain word.text :=
  .of_nameChars fun c hc => isNameChar_of_isIdentChar (word.chars c hc)

theorem Modifier.plain (m : Modifier) : Plain m.text := by
  have hAll : modifierAlphabet.all isPlain = true := by decide
  intro c hc
  exact List.all_eq_true.mp hAll c (m.chars c hc)

theorem Name.hasBlank (name : Name) : name.text.hasBlank = false :=
  Text.hasBlank_eq_false_iff.mpr fun c hc => isBlank_of_isNameChar (name.chars c hc)

theorem Name.tight (name : Name) : Text.Tight name.text :=
  .of_hasBlank name.ne_nil name.hasBlank

theorem Ident.hasBlank (word : Ident) : word.text.hasBlank = false :=
  Text.hasBlank_eq_false_iff.mpr fun c hc =>
    isBlank_of_isNameChar (isNameChar_of_isIdentChar (word.chars c hc))

theorem Ident.tight (word : Ident) : Text.Tight word.text :=
  .of_hasBlank word.ne_nil word.hasBlank

theorem Modifier.hasBlank (m : Modifier) : m.text.hasBlank = false := by
  have hAll : Text.hasBlank modifierAlphabet = false := by decide
  apply Text.hasBlank_eq_false_iff.mpr
  intro c hc
  exact Text.hasBlank_eq_false_iff.mp hAll c (m.chars c hc)

theorem Modifier.tight (m : Modifier) : Text.Tight m.text :=
  .of_hasBlank m.ne_nil m.hasBlank

namespace Chain

variable {α : Type} {write : α → Text}

theorem text_cons (first : α) (gap : Gap) (item : α) (more : List (Gap × α)) :
    text ⟨first, (gap, item) :: more⟩ write =
      write first ++ gap.text ++ text ⟨item, more⟩ write := by
  simp [text]

theorem plain (chain : Chain α) (h : ∀ item, Plain (write item)) : Plain (chain.text write) :=
  (h chain.first).append (.flatMap fun (gap, item) _ => gap.plain.append (h item))

theorem tight (chain : Chain α) (h : ∀ item, Text.Tight (write item)) :
    Text.Tight (chain.text write) := by
  obtain ⟨first, more⟩ := chain
  induction more generalizing first with
  | nil =>
      rw [text, List.flatMap_nil, List.append_nil]
      exact h first
  | cons next more ih =>
      obtain ⟨gap, item⟩ := next
      rw [text_cons]
      exact (h first).append (ih item) gap.text

end Chain

/-- Every operator starts with a character that plain texts lack. -/
theorem exists_head_of_operator {o : Text} (ho : o ∈ Grammar.mermaid.operators) :
    ∃ c rest, o = c :: rest ∧ (c = '|' ∨ c = '\x7d') := by
  rcases Grammar.head_of_mem_standardOperators o ho with hHead | hHead
  · obtain ⟨rest, hRest⟩ := List.head?_eq_some_iff.mp hHead
    exact ⟨_, rest, hRest, Or.inl rfl⟩
  · obtain ⟨rest, hRest⟩ := List.head?_eq_some_iff.mp hHead
    exact ⟨_, rest, hRest, Or.inr rfl⟩

theorem hasOperator_eq_false {t : Text} (hBar : '|' ∉ t) (hBrace : '\x7d' ∉ t) :
    Grammar.mermaid.hasOperator t = false := by
  rw [Grammar.hasOperator_eq_false_iff]
  rintro o ho ⟨x, y, rfl⟩
  obtain ⟨c, rest, rfl, rfl | rfl⟩ := exists_head_of_operator ho
  · exact hBar (by simp)
  · exact hBrace (by simp)

/-- An operator behind a plain text is the leftmost one. -/
theorem Plain.leftmost {before : Text} (h : Plain before) (operator : Operator) (after : Text) :
    Grammar.mermaid.Leftmost before operator.text after := by
  refine Grammar.isMermaid_mermaid.leftmost_of_first operator.mem fun x o y ho hxy =>
    Nat.le_of_not_lt fun hShort => ?_
  obtain ⟨c, rest, rfl, hc⟩ := exists_head_of_operator ho
  have hPrefix : x ++ [c] <+: before := by
    refine List.prefix_of_prefix_length_le ⟨rest ++ y, ?_⟩
      (List.prefix_append before (operator.text ++ after)) ?_
    · simpa using hxy
    · rw [List.length_append]
      exact hShort
  have hMem : c ∈ before := hPrefix.subset (by simp)
  rcases hc with rfl | rfl
  · exact h.not_mem rfl hMem
  · exact h.not_mem rfl hMem

theorem Name.plain_repaired (name : Name) : Plain name.repaired := by
  apply Plain.of_nameChars
  intro c hc
  obtain ⟨d, hd, rfl⟩ := List.mem_map.mp hc
  by_cases hHyphen : d = '-'
  · rw [if_pos hHyphen]
    rfl
  · rw [if_neg hHyphen]
    exact name.chars d hd

theorem Name.repair?_eq (name : Name) :
    EntityName.repair? name.text = if '-' ∈ name.text then some name.repaired else none := by
  have hQuoted : EntityName.isQuoted name.text = false := by
    have hQuote : '"' ∉ name.text := name.plain.not_mem rfl
    have hHead : (name.text.head? == some '"') = false := by
      rw [beq_eq_false_iff_ne]
      exact fun hSome => hQuote (List.mem_of_head? hSome)
    rw [EntityName.isQuoted, hHead, Bool.and_false, Bool.false_and]
  rw [EntityName.repair?, EntityName.needsRepair, name.hasBlank, hQuoted]
  simp [Name.repaired]

theorem Name.repair_eq (name : Name) : EntityName.repair name.text = name.repaired := by
  rw [EntityName.repair, name.repair?_eq]
  split
  next => rfl
  next hNone =>
    refine (List.map_id _).symm.trans (List.map_congr_left fun c hc => ?_)
    rw [if_neg]
    · rfl
    · rintro rfl
      exact hNone hc

theorem capitalize_eq (word : Ident) : ErDiagram.Label.capitalize word.text = capitalized word.text := by
  cases hText : word.text with
  | nil => rfl
  | cons c rest =>
      have hChar : isIdentChar c = true := word.chars c (by simp [hText])
      rw [ErDiagram.Label.capitalize, upperCase_of_isIdentChar hChar]
      rfl

/-- The words of a chain are its items. -/
theorem words_text (words : Chain Ident) :
    Text.words (words.text Ident.text) = words.items.map Ident.text := by
  obtain ⟨first, more⟩ := words
  induction more generalizing first with
  | nil =>
      rw [Chain.text, List.flatMap_nil, List.append_nil]
      exact Text.words_of_hasBlank_eq_false first.ne_nil first.hasBlank
  | cons next more ih =>
      obtain ⟨gap, word⟩ := next
      rw [Chain.text_cons, List.append_assoc,
        Text.words_append_of_border first.ne_nil first.hasBlank, Text.words_append_of_blank gap.isAllBlank,
        ih]
      · rfl
      · intro c hc
        rw [List.head?_append_of_ne_nil _ gap.ne_nil] at hc
        exact Text.isAllBlank_iff.mp gap.isAllBlank c (List.mem_of_head? hc)

/-- Labels of one word have no camel-case form. -/
theorem camelCase?_eq (words : Chain Ident) :
    ErDiagram.Label.camelCase? (words.text Ident.text) =
      if words.more = [] then none else some (camelCased words) := by
  rw [ErDiagram.Label.camelCase?, words_text]
  obtain ⟨first, _ | ⟨⟨gap, second⟩, more⟩⟩ := words
  · rfl
  · simp [Chain.items, camelCased, capitalize_eq, List.flatMap_map]

theorem Ident.chars_capitalized (word : Ident) : ∀ c ∈ capitalized word.text, isIdentChar c = true := by
  have hChars := word.chars
  cases hText : word.text with
  | nil => exact nofun
  | cons d rest =>
      rw [hText, List.forall_mem_cons] at hChars
      exact List.forall_mem_cons.mpr ⟨isIdentChar_toUpper hChars.1, hChars.2⟩

theorem plain_camelCased (words : Chain Ident) : Plain (camelCased words) :=
  words.first.plain.append (.flatMap fun next _ =>
    .of_nameChars fun c hc => isNameChar_of_isIdentChar (next.2.chars_capitalized c hc))

/-- The search for comments passes over the text and goes on behind it. -/
def Quiet (t : Text) : Prop :=
  ∀ rest, Comment.locate Grammar.standardMarker false (t ++ rest) =
    (Comment.locate Grammar.standardMarker false rest).map (t.size + ·)

namespace Quiet

variable {t : Text}

theorem append {a b : Text} (ha : Quiet a) (hb : Quiet b) : Quiet (a ++ b) := by
  intro rest
  rw [List.append_assoc, ha, hb, Comment.map_add_map_add, Text.size_append]

theorem of_not_mem (hSlash : '/' ∉ t) (hQuote : '"' ∉ t) : Quiet t :=
  Comment.locate_append_of_not_mem hSlash hQuote

theorem of_plain (h : Plain t) : Quiet t :=
  .of_not_mem (h.not_mem rfl) (h.not_mem rfl)

theorem locate_quoted (hQuote : '"' ∉ t) (rest : Text) :
    Comment.locate Grammar.standardMarker true (t ++ '"' :: rest) =
      (Comment.locate Grammar.standardMarker false rest).map ((t ++ ['"']).size + ·) := by
  induction t with
  | nil => rfl
  | cons c t ih =>
      rw [List.mem_cons, not_or] at hQuote
      rw [List.cons_append, Comment.locate_cons_of_not_at (Ne.symm hQuote.1) rfl, ih hQuote.2,
        Comment.map_add_map_add, List.cons_append, Text.size_cons]

/-- No comment starts between quotes, whatever stands there. -/
theorem of_remark (remark : Remark) : Quiet remark.quoted := by
  intro rest
  have hText : remark.quoted ++ rest = '"' :: (remark.text ++ '"' :: rest) := by
    simp [Remark.quoted]
  rw [hText, Comment.locate, if_pos rfl, Bool.not_false, locate_quoted remark.quote, Comment.map_add_map_add,
    Remark.quoted, List.cons_append, Text.size_cons]

theorem find?_eq_none (h : Quiet t) : Comment.find? Grammar.standardMarker t = none := by
  have hNone := h []
  rwa [List.append_nil] at hNone

/-- A marker behind a quiet text starts the comment. -/
theorem find?_marker (h : Quiet t) (rest : Text) :
    Comment.find? Grammar.standardMarker (t ++ '/' :: '/' :: rest) = some t.size :=
  h ('/' :: '/' :: rest)

/-- Stripping the comment leaves the text, and the gap behind it where there is no comment. -/
theorem strip_tail (h : Quiet t) (hTight : Text.Tight t) (tail : Tail) :
    Comment.strip Grammar.standardMarker (t ++ tail.text) = t ++ tail.kept.text := by
  obtain ⟨gap, _ | comment⟩ := tail
  · have hQuiet := h.append (.of_plain gap.plain)
    have hText : Tail.text ⟨gap, none⟩ = gap.text := List.append_nil _
    rw [hText]
    exact Comment.strip_eq_self hQuiet.find?_eq_none
  · have hQuiet := h.append (.of_plain gap.plain)
    have hText : t ++ Tail.text ⟨gap, some comment⟩ = t ++ gap.text ++ '/' :: '/' :: comment.text := by
      simp [Tail.text]
    rw [Comment.strip, hText, hQuiet.find?_marker]
    simp only [Text.takeBytes_size_append]
    rw [Text.trimEnd_append_of_blank _ gap.isAllBlank, hTight.trimEnd_eq]
    exact (List.append_nil t).symm

end Quiet

end Document

end ErDiagram
