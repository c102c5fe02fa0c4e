import ErDiagram.Label
import ErDiagram.Proofs.Text.Trim

/-!
Words, and the camel-case form of a label. Upper case never makes a blank, so the form has none, and
a label has a camel-case form exactly when it has a blank between two words.
-/

namespace ErDiagram

namespace Text

theorem words_cons (c : Char) (rest : Text) :
    words (c :: rest) =
      if isBlank c then words rest
      else
        match rest, words rest with
        | d :: _, w :: ws => if isBlank d then [c] :: w :: ws else (c :: w) :: ws
        | _, ws => [c] :: ws := rfl

theorem words_cons_of_blank {c : Char} (h : isBlank c = true) (rest : Text) :
    words (c :: rest) = words rest := by
  rw [words_cons, if_pos h]

theorem words_append_of_blank {a : Text} (h : isAllBlank a) (b : Text) :
    words (a ++ b) = words b := by
  induction a with
  | nil => rfl
  | cons c a ih =>
      rw [isAllBlank_cons, Bool.and_eq_true] at h
      rw [List.cons_append, words_cons_of_blank h.1, ih h.2]

/-- A text without blanks in front of the end or of a blank is a word. -/
theorem words_append_of_border {word rest : Text} (hne : word ≠ []) (h : hasBlank word = false)
    (hRest : ∀ c, rest.head? = some c → isBlank c = true) :
    words (word ++ rest) = word :: words rest := by
  induction word with
  | nil => exact absurd rfl hne
  | cons c word ih =>
      rw [hasBlank_cons, Bool.or_eq_false_iff] at h
      cases word with
      | nil =>
          cases rest with
          | nil =>
              rw [List.append_nil, words_cons, if_neg (by simp [h.1])]
          | cons d rest =>
              rw [List.singleton_append, words_cons, if_neg (by simp [h.1])]
              split
              next d' more w ws hEq hWords =>
                obtain ⟨rfl, rfl⟩ := List.cons.inj hEq
                rw [if_pos (hRest d rfl), hWords]
              next => rfl
      | cons d word =>
          have hTail := ih (by simp) h.2
          rw [hasBlank_cons, Bool.or_eq_false_iff] at h
          rw [List.cons_append, words_cons, if_neg (by simp [h.1]), hTail]
          simp [h.2.1]

theorem words_of_hasBlank_eq_false {word : Text} (hne : word ≠ []) (h : hasBlank word = false) :
    words word = [word] := by
  have hWords := @words_append_of_border word [] hne h nofun
  rwa [List.append_nil] at hWords

/-- The word that a text starts with, if it starts with no blank. -/
theorem exists_word {c : Char} (hc : isBlank c = false) (t : Text) :
    ∃ word rest, c :: t = word ++ rest ∧ word ≠ [] ∧ hasBlank word = false ∧
      ∀ d, rest.head? = some d → isBlank d = true := by
  have hTake : (c :: t).takeWhile (fun d => !isBlank d) =
      c :: t.takeWhile (fun d => !isBlank d) := List.takeWhile_cons_of_pos (by simp [hc])
  refine ⟨(c :: t).takeWhile (fun d => !isBlank d), (c :: t).dropWhile (fun d => !isBlank d),
    List.takeWhile_append_dropWhile.symm, by simp [hTake], ?_, fun d hd => ?_⟩
  · apply hasBlank_eq_false_iff.mpr
    intro d hd
    simpa using List.mem_takeWhile_imp hd
  · have hNot := List.head?_dropWhile_not (fun d => !isBlank d) (c :: t)
    simpa [hd] using hNot

theorem words_ne_nil {t : Text} (h : isAllBlank t = false) : words t ≠ [] := by
  induction t with
  | nil => cases h
  | cons c t ih =>
      cases hc : isBlank c with
      | true =>
          rw [words_cons_of_blank hc]
          exact ih (by simpa [hc] using h)
      | false =>
          obtain ⟨word, rest, hEq, hne, hWord, hRest⟩ := exists_word hc t
          rw [hEq, words_append_of_border hne hWord hRest]
          simp

theorem of_mem_words {t word : Text} (h : word ∈ words t) : word ≠ [] ∧ hasBlank word = false := by
  induction hn : t.length using Nat.strongRecOn generalizing t with
  | ind n ih =>
      cases t with
      | nil => cases h
      | cons c t =>
          cases hc : isBlank c with
          | true =>
              rw [words_cons_of_blank hc] at h
              exact ih t.length (by simp [← hn]) h rfl
          | false =>
              obtain ⟨first, rest, hEq, hne, hFirst, hRest⟩ := exists_word hc t
              rw [hEq, words_append_of_border hne hFirst hRest, List.mem_cons] at h
              rcases h with rfl | hLater
              · exact ⟨hne, hFirst⟩
              · refine ih rest.length ?_ hLater rfl
                rw [← hn, hEq, List.length_append]
                have := List.length_pos_iff.mpr hne
                omega

end Text

/-- Whether a code point is that of a blank character. -/
def isBlankCode (n : Nat) : Bool :=
  (0x09 ≤ n && n ≤ 0x0D) || n == 0x20 || n == 0x85 || n == 0xA0 || n == 0x1680 ||
    (0x2000 ≤ n && n ≤ 0x200A) || n == 0x2028 || n == 0x2029 || n == 0x202F || n == 0x205F ||
    n == 0x3000

theorem isBlank_ofNat {n : Nat} (h : isBlankCode n = false) : isBlank (Char.ofNat n) = false := by
  change isBlankCode (Char.ofNat n).toNat = false
  by_cases hValid : n.isValidChar
  · have hSame : (Char.ofNat n).toNat = n := by
      rw [Char.ofNat, dif_pos hValid]
      rfl
    rwa [hSame]
  · rw [Char.ofNat, dif_neg hValid]
    rfl

/-- The stretches of code points that blank characters have. -/
def blankCodes : List (Nat × Nat) :=
  [(0x09, 0x0D), (0x20, 0x20), (0x85, 0x85), (0xA0, 0xA0), (0x1680, 0x1680), (0x2000, 0x200A),
    (0x2028, 0x2029), (0x202F, 0x202F), (0x205F, 0x205F), (0x3000, 0x3000)]

theorem isBlankCode_eq_false {n : Nat} (h : ∀ codes ∈ blankCodes, n < codes.1 ∨ codes.2 < n) :
    isBlankCode n = false := by
  simp only [blankCodes, List.forall_mem_cons] at h
  simp only [isBlankCode, Bool.or_eq_false_iff, Bool.and_eq_false_iff, decide_eq_false_iff_not,
    beq_eq_false_iff_ne]
  omega

theorem isBlankCode_upperExpansions :
    ∀ row ∈ upperExpansions, ∀ n ∈ row.2, isBlankCode n = false := by
  decide +kernel

theorem upperRanges_avoid_blankCodes :
    ∀ range ∈ upperRanges, ∀ codes ∈ blankCodes,
      range.image + (range.last - range.first) < codes.1 ∨ codes.2 < range.image := by
  decide +kernel

theorem mem_of_lookup {n : Nat} {image : List Nat} {rows : List (Nat × List Nat)}
    (h : rows.lookup n = some image) : (n, image) ∈ rows := by
  obtain ⟨front, rest, rfl, -⟩ := List.lookup_eq_some_iff.mp h
  simp

/-- Upper case makes no blank out of another character. -/
theorem hasBlank_upperCase {c : Char} (h : isBlank c = false) :
    Text.hasBlank (upperCase c) = false := by
  rw [Text.hasBlank_eq_false_iff]
  unfold upperCase
  split
  next image hLookup =>
    have hRow := isBlankCode_upperExpansions (c.toNat, image) (mem_of_lookup hLookup)
    intro d hd
    obtain ⟨n, hn, rfl⟩ := List.mem_map.mp hd
    exact isBlank_ofNat (hRow n hn)
  next =>
    split
    next range hFind =>
      have hRange := upperRanges_avoid_blankCodes range (List.mem_of_find?_eq_some hFind)
      have hCovers := List.find?_some hFind
      simp only [CaseRange.covers, Bool.and_eq_true, decide_eq_true_eq] at hCovers
      intro d hd
      rw [List.mem_singleton] at hd
      rw [hd]
      refine isBlank_ofNat (isBlankCode_eq_false fun codes hCodes => ?_)
      have := hRange codes hCodes
      rw [CaseRange.apply]
      omega
    next => simpa using h

theorem upperExpansions_ne_nil : ∀ row ∈ upperExpansions, row.2 ≠ [] := by
  decide

theorem upperCase_ne_nil (c : Char) : upperCase c ≠ [] := by
  unfold upperCase
  split
  next image hLookup =>
    have hRow := upperExpansions_ne_nil (c.toNat, image) (mem_of_lookup hLookup)
    simpa using hRow
  next =>
    split
    next => simp
    next => simp

namespace Label

theorem hasBlank_capitalize {word : Text} (h : word.hasBlank = false) :
    (capitalize word).hasBlank = false := by
  cases word with
  | nil => rfl
  | cons c word =>
      rw [Text.hasBlank_cons, Bool.or_eq_false_iff] at h
      rw [capitalize, Text.hasBlank_append, hasBlank_upperCase h.1, h.2]
      rfl

/-- The camel-case word that words make up. -/
def collapse : List Text → Text
  | [] => []
  | first :: more => first ++ more.flatMap capitalize

theorem camelCase?_eq_collapse (label : Text) :
    camelCase? label = if 2 ≤ label.words.length then some (collapse label.words) else none := by
  rw [camelCase?]
  rcases label.words with _ | ⟨first, _ | ⟨second, more⟩⟩
  · rfl
  · rfl
  · exact (if_pos (Nat.le_add_left 2 more.length)).symm

/-- Words make up a word. -/
theorem collapse_word {words : List Text} (hne : words ≠ [])
    (h : ∀ word ∈ words, word ≠ [] ∧ word.hasBlank = false) :
    collapse words ≠ [] ∧ (collapse words).hasBlank = false := by
  cases words with
  | nil => exact absurd rfl hne
  | cons first more =>
      rw [List.forall_mem_cons] at h
      obtain ⟨⟨hFirstNe, hFirst⟩, hMore⟩ := h
      refine ⟨by simp [collapse, hFirstNe], ?_⟩
      rw [collapse, Text.hasBlank_append, hFirst, Bool.false_or, Text.hasBlank_eq_false_iff]
      intro c hc
      obtain ⟨word, hWord, hIn⟩ := List.mem_flatMap.mp hc
      exact Text.hasBlank_eq_false_iff.mp (hasBlank_capitalize (hMore word hWord).2) c hIn

/-- The camel-case form of a label is one word. -/
theorem camelCase?_word {label new : Text} (h : camelCase? label = some new) :
    new ≠ [] ∧ new.hasBlank = false := by
  rw [camelCase?_eq_collapse] at h
  split at h
  next hMany =>
    obtain rfl := Option.some.inj h
    refine collapse_word ?_ fun word => Text.of_mem_words
    rintro hNone
    rw [hNone] at hMany
    cases hMany
  next => cases h

theorem capitalize_ne_nil {word : Text} (hne : word ≠ []) : capitalize word ≠ [] := by
  cases word with
  | nil => exact absurd rfl hne
  | cons c word => simp [capitalize, upperCase_ne_nil]

/-- A label of several words never leads its camel-case form, whatever follows that: the blank behind
the first word has no counterpart. -/
theorem not_prefix_of_camelCase? {label new : Text} (hTight : Text.Tight label)
    (h : camelCase? label = some new) (rest : Text) : ¬ label <+: new ++ rest := by
  obtain ⟨c, hHead, hc⟩ := hTight.head
  cases label with
  | nil => cases hHead
  | cons d t =>
      obtain rfl : d = c := Option.some.inj hHead
      obtain ⟨first, behind, hEq, hne, hFirst, hBehind⟩ := Text.exists_word hc t
      have hWord := camelCase?_word h
      rw [hEq, camelCase?, Text.words_append_of_border hne hFirst hBehind] at h
      cases hMore : Text.words behind with
      | nil => rw [hMore] at h; cases h
      | cons second more =>
          rw [hMore] at h
          obtain rfl := Option.some.inj h
          have hSecond : second ≠ [] :=
            (Text.of_mem_words (t := behind) (hMore ▸ List.mem_cons_self)).1
          intro hPrefix
          rw [hEq, List.append_assoc, List.prefix_append_right_inj] at hPrefix
          cases behind with
          | nil => cases hMore
          | cons blank behind =>
              obtain ⟨e, hLetter⟩ := List.exists_cons_of_ne_nil (capitalize_ne_nil hSecond)
              obtain ⟨tail, hTail⟩ := hLetter
              rw [List.flatMap_cons, hTail] at hPrefix hWord
              obtain rfl : blank = e := by
                obtain ⟨z, hz⟩ := hPrefix
                exact (List.cons.inj hz).1
              have hLetterBlank := Text.hasBlank_eq_false_iff.mp hWord.2 blank (by simp)
              rw [hBehind blank rfl] at hLetterBlank
              cases hLetterBlank

/-- A label without blanks stays as it is. -/
theorem camelCase?_eq_none {label : Text} (h : label.hasBlank = false) :
    camelCase? label = none := by
  cases label with
  | nil => rfl
  | cons c label => rw [camelCase?, Text.words_of_hasBlank_eq_false (by simp) h]

/-- A label with a blank in it does not. -/
theorem camelCase?_isSome {label : Text} (hTight : Text.Tight label)
    (h : label.hasBlank = true) : (camelCase? label).isSome := by
  obtain ⟨c, hHead, hc⟩ := hTight.head
  cases label with
  | nil => cases hHead
  | cons d t =>
      obtain rfl : d = c := Option.some.inj hHead
      obtain ⟨word, rest, hEq, hne, hWord, hRest⟩ := Text.exists_word hc t
      have hBlank : Text.isAllBlank rest = false := by
        apply Bool.eq_false_iff.mpr
        intro hAll
        have hTrim := hTight.trimEnd_eq
        rw [hEq, Text.trimEnd_append_of_blank _ hAll,
          (Text.Tight.of_hasBlank hne hWord).trimEnd_eq] at hTrim
        rw [hEq, ← hTrim, hWord] at h
        cases h
      have hWords := Text.words_append_of_border hne hWord hRest
      rw [hEq, camelCase?, hWords]
      cases hMore : Text.words rest with
      | nil => exact absurd hMore (Text.words_ne_nil hBlank)
      | cons second more => rfl

end Label

end ErDiagram
