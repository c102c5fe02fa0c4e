import ErDiagram.Proofs.Label

/-!
Camel case in stages. The camel-case form of a label hangs on its words alone and is itself a word, so
labels can be put into camel case one by one and then together: nothing is gained or lost by the stages.
-/

namespace ErDiagram

namespace Text

/-- What stands between the blanks of a text, without the empty pieces. -/
def pieces (t : Text) : List Text :=
  (t.splitOnP isBlank).filter fun piece => !piece.isEmpty

theorem pieces_cons (c : Char) (rest : Text) :
    pieces (c :: rest) =
      if isBlank c then pieces rest
      else ((rest.splitOnP isBlank).modifyHead (c :: ·)).filter fun piece => !piece.isEmpty := by
  rw [pieces, List.splitOnP_cons_eq_if_modifyHead]
  cases isBlank c with
  | true => rfl
  | false => rfl

theorem words_eq_pieces (t : Text) : t.words = t.pieces := by
  induction t with
  | nil => rw [pieces, List.splitOnP_nil]; rfl
  | cons c rest ih =>
      rw [words_cons, pieces_cons]
      cases hc : isBlank c with
      | true => exact ih
      | false =>
          cases rest with
          | nil => rw [List.splitOnP_nil]; rfl
          | cons d rest =>
              obtain ⟨head, tail, hSplit⟩ :=
                List.exists_cons_of_ne_nil (List.splitOnP_ne_nil isBlank rest)
              rw [ih, pieces_cons, List.splitOnP_cons_eq_if_modifyHead, pieces, hSplit]
              cases hd : isBlank d with
              | true =>
                  cases hMore : (head :: tail).filter fun piece => !piece.isEmpty with
                  | nil => simp [hMore]
                  | cons word more => simp [hMore, hd]
              | false => simp [hd]

/-- A blank parts the words in front of it from those behind it. -/
theorem words_append_cons {c : Char} (hc : isBlank c = true) (a b : Text) :
    words (a ++ c :: b) = words a ++ words b := by
  rw [words_eq_pieces, words_eq_pieces, words_eq_pieces, pieces, List.splitOnP_append_cons a b hc,
    List.filter_append]
  rfl

theorem words_intercalate {c : Char} (hc : isBlank c = true) (parts : List Text) :
    words ([c].intercalate parts) = parts.flatMap words := by
  induction parts with
  | nil => rfl
  | cons part rest ih =>
      cases rest with
      | nil => simp
      | cons next rest =>
          rw [List.intercalate_cons_cons, List.append_assoc, List.singleton_append,
            words_append_cons hc, ih]
          rfl

end Text

namespace Label

/-- A label of several words is put into camel case, and then it is one word. -/
theorem words_camelCase {label : Text} (h : label.words ≠ []) :
    (camelCase label).words = [collapse label.words] := by
  rw [camelCase, camelCase?_eq_collapse]
  split
  next =>
    obtain ⟨hne, hWord⟩ := collapse_word h fun _ => Text.of_mem_words
    exact Text.words_of_hasBlank_eq_false hne hWord
  next hFew =>
    have hSome := List.length_pos_iff.mpr h
    obtain ⟨word, hWord⟩ := List.length_eq_one_iff.mp (show label.words.length = 1 by omega)
    rw [Option.getD_none, hWord, collapse, List.flatMap_nil, List.append_nil]

theorem camelCase?_camelCase (label : Text) : camelCase? (camelCase label) = none := by
  by_cases h : label.words = []
  · have hNone : camelCase? label = none := by rw [camelCase?_eq_collapse, h]; rfl
    rw [camelCase, hNone, Option.getD_none, hNone]
  · rw [camelCase?_eq_collapse, words_camelCase h]
    rfl

theorem camelCase_camelCase (label : Text) : camelCase (camelCase label) = camelCase label :=
  congrArg (Option.getD · (camelCase label)) (camelCase?_camelCase label)

theorem camelCase_of_words {label : Text} (h : 2 ≤ label.words.length) :
    camelCase label = collapse label.words := by
  rw [camelCase, camelCase?_eq_collapse, if_pos h]
  rfl

/-- Only the first character of the first word can change in a collapsed group. -/
theorem capitalize_collapse {group : List Text} (hne : group ≠ []) (h : ∀ word ∈ group, word ≠ []) :
    capitalize (collapse group) = group.flatMap capitalize := by
  obtain ⟨first, more, rfl⟩ := List.exists_cons_of_ne_nil hne
  obtain ⟨c, rest, rfl⟩ := List.exists_cons_of_ne_nil (h first List.mem_cons_self)
  exact (List.append_assoc ..).symm

theorem flatMap_capitalize_flatten {groups : List (List Text)}
    (h : ∀ group ∈ groups, group ≠ [] ∧ ∀ word ∈ group, word ≠ []) :
    groups.flatten.flatMap capitalize = (groups.map collapse).flatMap capitalize := by
  induction groups with
  | nil => rfl
  | cons group rest ih =>
      obtain ⟨⟨hne, hWords⟩, hRest⟩ := List.forall_mem_cons.mp h
      rw [List.flatten_cons, List.flatMap_append, ih hRest, List.map_cons, List.flatMap_cons,
        capitalize_collapse hne hWords]

/-- Words can be collapsed in groups first. -/
theorem collapse_flatten {groups : List (List Text)}
    (h : ∀ group ∈ groups, group ≠ [] ∧ ∀ word ∈ group, word ≠ []) :
    collapse groups.flatten = collapse (groups.map collapse) := by
  cases groups with
  | nil => rfl
  | cons group rest =>
      obtain ⟨⟨hne, -⟩, hRest⟩ := List.forall_mem_cons.mp h
      obtain ⟨first, more, rfl⟩ := List.exists_cons_of_ne_nil hne
      calc collapse ((first :: more) ++ rest.flatten)
          = first ++ (more.flatMap capitalize ++ rest.flatten.flatMap capitalize) := by
            rw [← List.flatMap_append]
            rfl
        _ = collapse (first :: more) ++ (rest.map collapse).flatMap capitalize := by
            rw [flatMap_capitalize_flatten hRest, ← List.append_assoc]
            rfl

/-- Labels with words in them, one behind the other, have the camel-case form that they have once each
of them is in camel case. -/
theorem camelCase_intercalate {labels : List Text} (h : ∀ label ∈ labels, label.words ≠ []) :
    camelCase ([' '].intercalate labels) = camelCase ([' '].intercalate (labels.map camelCase)) := by
  rcases labels with _ | ⟨a, _ | ⟨b, more⟩⟩
  · rfl
  · simp [camelCase_camelCase]
  · let groups := (a :: b :: more).map Text.words
    have hGroups : ∀ group ∈ groups, group ≠ [] ∧ ∀ word ∈ group, word ≠ [] := by
      intro group hGroup
      obtain ⟨label, hLabel, rfl⟩ := List.mem_map.mp hGroup
      exact ⟨h label hLabel, fun word hWord => (Text.of_mem_words hWord).1⟩
    have hWhole : Text.words ([' '].intercalate (a :: b :: more)) = groups.flatten :=
      Text.words_intercalate rfl _
    have hParts : Text.words ([' '].intercalate ((a :: b :: more).map camelCase)) =
        groups.map collapse := by
      rw [Text.words_intercalate rfl, List.flatMap_map, List.map_map, List.map_eq_flatMap]
      exact List.flatMap_congr fun label hLabel => words_camelCase (h label hLabel)
    have hMany : 2 ≤ groups.flatten.length := by
      have hA := List.length_pos_iff.mpr (h a (by simp))
      have hB := List.length_pos_iff.mpr (h b (by simp))
      simp only [groups, List.map_cons, List.flatten_cons, List.length_append]
      omega
    calc camelCase ([' '].intercalate (a :: b :: more))
        = collapse groups.flatten := by rw [camelCase_of_words (hWhole ▸ hMany), hWhole]
      _ = collapse (groups.map collapse) := collapse_flatten hGroups
      _ = camelCase ([' '].intercalate ((a :: b :: more).map camelCase)) := by
          rw [camelCase_of_words (by rw [hParts]; simp [groups]), hParts]

/-- A label is put into camel case exactly if there are at least two pieces between its blanks. The form
hangs on these pieces alone, is not empty and has no blanks, so it stays as it is from then on; and two
labels that are put into camel case before they are written side by side end up as if they had not been. -/
theorem camelCase_in_stages :
    (∀ label : Text,
      ((camelCase? label).isSome ↔ 2 ≤ label.pieces.length) ∧
        (∀ new, camelCase? label = some new → new ≠ [] ∧ new.hasBlank = false ∧
          ∀ other : Text, other.pieces = label.pieces → camelCase? other = some new) ∧
        camelCase? (camelCase label) = none ∧ camelCase (camelCase label) = camelCase label) ∧
      ∀ a b : Text, a.pieces ≠ [] → b.pieces ≠ [] →
        camelCase (a ++ ' ' :: b) = camelCase (camelCase a ++ ' ' :: camelCase b) := by
  simp only [← Text.words_eq_pieces]
  refine ⟨fun label => ⟨?_, fun new hNew => ?_, camelCase?_camelCase label, camelCase_camelCase label⟩,
    fun a b ha hb => ?_⟩
  · rw [camelCase?_eq_collapse, Option.isSome_ite]
  · obtain ⟨hne, hWord⟩ := camelCase?_word hNew
    refine ⟨hne, hWord, fun other hOther => ?_⟩
    rw [camelCase?_eq_collapse, hOther, ← camelCase?_eq_collapse, hNew]
  · have hStages := @camelCase_intercalate [a, b] (by simp [ha, hb])
    simpa using hStages

/-- Blanks that are not ASCII, blanks at both ends and first letters that become two in upper case. -/
theorem camelCase_in_stages_expanded :
    let a : Text := " is\u00a0ßet".toList
    let b : Text := "\tǆ  ﬁx\u2003".toList
    let other : Text := "is ßet".toList
    a.pieces ≠ [] ∧ b.pieces ≠ [] ∧
      camelCase (a ++ ' ' :: b) = camelCase (camelCase a ++ ' ' :: camelCase b) ∧
      camelCase (a ++ ' ' :: b) = "isSSetǄFIx".toList ∧
      camelCase? a = some "isSSet".toList ∧ other.pieces = a.pieces ∧
      camelCase? other = some "isSSet".toList := by
  intro a b other
  have ha : a.pieces ≠ [] := by rw [← Text.words_eq_pieces]; decide
  have hb : b.pieces ≠ [] := by rw [← Text.words_eq_pieces]; decide
  have hOther : other.pieces = a.pieces := by
    rw [← Text.words_eq_pieces, ← Text.words_eq_pieces]
    decide
  have hForm : camelCase? a = some "isSSet".toList := by decide +kernel
  obtain ⟨hLabels, hStages⟩ := camelCase_in_stages
  obtain ⟨-, hWords, -⟩ := hLabels a
  exact ⟨ha, hb, hStages a b ha hb, by decide +kernel, hForm, hOther,
    (hWords _ hForm).2.2 other hOther⟩

end Label

end ErDiagram
