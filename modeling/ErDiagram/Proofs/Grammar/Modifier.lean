import ErDiagram.Proofs.Grammar.Builder
import ErDiagram.Proofs.Text.Case

/-!
Key modifiers in lists. A token is taken for key modifiers exactly if it is a list of them, written with
commas between the items and at most one comma behind the last; the case of the letters A to Z does not
matter, that of any other letter does. No item is empty and none has a comma in it, so a token is such a
list in one way only.
-/

namespace ErDiagram

/-- A comma is no letter. -/
theorem SameLetter.eq_comma {c : Char} (h : SameLetter c ',') : c = ',' := by
  rcases h with hSame | ⟨hLower, -, hComma⟩ | ⟨hUpper, -, -⟩
  · exact hSame
  · have hBound : 65 ≤ c.toNat := UInt32.le_iff_toNat_le.mp hLower
    have hValue : ','.toNat = 44 := rfl
    omega
  · exact absurd hUpper (by decide)

namespace Grammar

variable {g g' : Grammar}

/-- Which key modifiers a grammar has is all that counts of them. -/
theorem isKeyModifier_congr (h : ∀ m, m ∈ g.keyModifiers ↔ m ∈ g'.keyModifiers) (token : Text) :
    g.isKeyModifier token = g'.isKeyModifier token := by
  have hAny (item : Text) :
      g.keyModifiers.any (sameModifier · item) = g'.keyModifiers.any (sameModifier · item) := by
    rw [Bool.eq_iff_iff, List.any_eq_true, List.any_eq_true]
    exact exists_congr fun m => and_congr_left' (h m)
  simp only [isKeyModifier, hAny]

theorem sameModifier_iff {a b : Text} : sameModifier a b = true ↔ a.SameUpToCase b := by
  rw [sameModifier, beq_iff_eq, Text.foldCase_eq_foldCase_iff]

/-- The modifiers of a grammar that can be made are fit for lists. -/
theorem IsBuilt.isModifier (hg : g.IsBuilt) {m : Text} (hm : m ∈ g.keyModifiers) :
    GrammarBuilder.IsModifier m := by
  rcases hg with rfl | ⟨b, hBuild⟩
  · have hAll : ∀ m ∈ standardModifiers, m ≠ [] ∧ m.hasBlank = false ∧ ',' ∉ m := by decide
    obtain ⟨hNe, hBlank, hComma⟩ := hAll m hm
    exact ⟨⟨hNe, hBlank⟩, hComma⟩
  · have hSame := GrammarBuilder.sameTokens_of_build hBuild
    exact (GrammarBuilder.build_isOk_iff.mp ⟨g, hBuild⟩).keyModifier m ((hSame.keyModifier m).mp hm)

/-- An item that some key modifier of the grammar equals up to the case of its letters. -/
def IsItem (g : Grammar) (item : Text) : Prop :=
  ∃ m ∈ g.keyModifiers, m.SameUpToCase item

/-- A token that lists key modifiers: commas stand between the items, and one may stand behind the
last. -/
def ListsModifiers (g : Grammar) (token : Text) : Prop :=
  ∃ items : List Text, items ≠ [] ∧ (∀ item ∈ items, g.IsItem item) ∧
    (token = [','].intercalate items ∨ token = [','].intercalate items ++ [','])

theorem any_sameModifier_iff {item : Text} :
    (g.keyModifiers.any (sameModifier · item)) = true ↔ g.IsItem item := by
  rw [List.any_eq_true]
  exact exists_congr fun m => and_congr_right fun _ => sameModifier_iff

theorem IsBuilt.item_ne_nil (hg : g.IsBuilt) {item : Text} (h : g.IsItem item) : item ≠ [] := by
  obtain ⟨m, hm, hSame⟩ := h
  rintro rfl
  exact (hg.isModifier hm).ne_nil (List.forall₂_nil_right_iff.mp hSame)

theorem IsBuilt.comma_notMem_item (hg : g.IsBuilt) {item : Text} (h : g.IsItem item) : ',' ∉ item := by
  obtain ⟨m, hm, hSame⟩ := h
  intro hComma
  have hFolded : ','.toLower ∈ m.foldCase := by
    rw [beq_iff_eq.mp (sameModifier_iff.mpr hSame)]
    exact List.mem_map_of_mem hComma
  obtain ⟨c, hc, hLower⟩ := List.mem_map.mp hFolded
  exact (hg.isModifier hm).no_comma ((toLower_eq_toLower_iff.mp hLower).eq_comma ▸ hc)

theorem dropComma_append (list : Text) : dropComma (list ++ [',']) = list := by
  rw [dropComma, List.getLast?_concat, if_pos rfl, List.dropLast_concat]

theorem dropComma_of_last {list : Text} (h : list.getLast? ≠ some ',') : dropComma list = list :=
  if_neg h

/-- Without a comma at its end, or with it, a token is what is left of it. -/
theorem eq_dropComma_or (token : Text) :
    token = dropComma token ∨ token = dropComma token ++ [','] := by
  by_cases hLast : token.getLast? = some ','
  · obtain ⟨list, rfl⟩ := List.getLast?_eq_some_iff.mp hLast
    exact Or.inr (by rw [dropComma_append])
  · exact Or.inl (dropComma_of_last hLast).symm

/-- The items of a list are found again, and nothing of the list is a comma at its end. -/
theorem IsBuilt.splitOn_items (hg : g.IsBuilt) {items : List Text} (hNe : items ≠ [])
    (hItems : ∀ item ∈ items, g.IsItem item) :
    ([','].intercalate items).splitOn ',' = items ∧ [','].intercalate items ≠ [] ∧
      ([','].intercalate items).getLast? ≠ some ',' := by
  have hSplit : ([','].intercalate items).splitOn ',' = items :=
    List.splitOn_intercalate ',' (fun item hItem => hg.comma_notMem_item (hItems item hItem)) hNe
  have hNotNil : [] ∉ items := fun hMem => hg.item_ne_nil (hItems [] hMem) rfl
  refine ⟨hSplit, fun hNil => hNotNil ?_, fun hLast => hNotNil ?_⟩
  · rw [← hSplit, hNil]
    exact List.mem_singleton.mpr rfl
  · obtain ⟨front, hFront⟩ := List.getLast?_eq_some_iff.mp hLast
    rw [← hSplit, hFront, List.splitOn]
    rw [List.splitOnP_append_cons front [] (by simp)]
    exact List.mem_append_right _ (List.mem_singleton.mpr rfl)

/-- Under any grammar a token that is taken for key modifiers lists them. -/
theorem listsModifiers_of_isKeyModifier {token : Text} (h : g.isKeyModifier token = true) :
    g.ListsModifiers token := by
  simp only [isKeyModifier, Bool.and_eq_true, List.all_eq_true, any_sameModifier_iff] at h
  refine ⟨(dropComma token).splitOn ',', List.splitOn_ne_nil ',' _, h.2, ?_⟩
  rw [List.intercalate_splitOn]
  exact eq_dropComma_or token

theorem IsBuilt.isKeyModifier_iff (hg : g.IsBuilt) {token : Text} :
    g.isKeyModifier token = true ↔ g.ListsModifiers token := by
  refine ⟨listsModifiers_of_isKeyModifier, ?_⟩
  rintro ⟨items, hNe, hItems, hToken⟩
  obtain ⟨hSplit, hList, hLast⟩ := hg.splitOn_items hNe hItems
  have hDrop : dropComma token = [','].intercalate items := by
    rcases hToken with rfl | rfl
    · exact dropComma_of_last hLast
    · exact dropComma_append _
  simp only [isKeyModifier, Bool.and_eq_true, Bool.not_eq_true', List.isEmpty_eq_false_iff,
    List.all_eq_true, any_sameModifier_iff, hDrop, hSplit]
  exact ⟨hList, hItems⟩

/-- A token is taken for key modifiers exactly if it lists some of the grammar, up to the case of their
letters. Every grammar with the same modifiers answers alike, in whatever order and however often it names
them. -/
theorem isKeyModifier_iff_lists (hg : g.IsBuilt) :
    (∀ token, g.isKeyModifier token = true ↔ g.ListsModifiers token) ∧
      ∀ g' : Grammar, (∀ m, m ∈ g'.keyModifiers ↔ m ∈ g.keyModifiers) →
        ∀ token, g'.isKeyModifier token = g.isKeyModifier token :=
  ⟨fun _ => hg.isKeyModifier_iff, fun _ => isKeyModifier_congr⟩

/-- The K of the second token is the sign for Kelvin, whose case does matter. -/
theorem isKeyModifier_iff_lists_withNotNull :
    let reordered : Grammar :=
      { withNotNull with keyModifiers := ["NN", "UK", "NN", "FK", "PK"].map String.toList }
    withNotNull.IsBuilt ∧ withNotNull.ListsModifiers "pk,nN,".toList ∧
      ¬ withNotNull.ListsModifiers "P\u212A".toList ∧ ¬ withNotNull.ListsModifiers "PK,,".toList ∧
      reordered.isKeyModifier "pk,nN,".toList = true := by
  intro reordered
  have hBuilt : withNotNull.IsBuilt := Or.inr ⟨mermaid.toBuilder.addAll [.keyModifier "NN".toList], rfl⟩
  obtain ⟨hLists, hOrder⟩ := isKeyModifier_iff_lists hBuilt
  have hKey : withNotNull.isKeyModifier "pk,nN,".toList = true := by decide
  refine ⟨hBuilt, (hLists _).mp hKey, (hLists _).not.mp (by decide), (hLists _).not.mp (by decide), ?_⟩
  have hSame : ∀ m, m ∈ reordered.keyModifiers ↔ m ∈ withNotNull.keyModifiers :=
    fun m => ⟨fun hm => (by decide : ∀ m ∈ reordered.keyModifiers, m ∈ withNotNull.keyModifiers) m hm,
      fun hm => (by decide : ∀ m ∈ withNotNull.keyModifiers, m ∈ reordered.keyModifiers) m hm⟩
  rw [hOrder reordered hSame, hKey]

end Grammar

end ErDiagram
