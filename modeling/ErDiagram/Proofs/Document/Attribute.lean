import ErDiagram.Proofs.Document.Code
import ErDiagram.Proofs.Repair.Attribute

/-!
Attributes of a document. Behind its type such a line is a list of chunks, each a gap and a token, and
the tokens that the line is read by are those of the chunks.
-/

namespace ErDiagram

namespace Document

theorem Plain.quotedAfter {word : Text} (h : Plain word) : Token.quotedAfter false word = false :=
  Token.quotedAfter_of_not_mem (h.not_mem rfl) false

/-- A token with the gap in front of it. -/
structure Chunk where
  gap : Gap
  word : Text
  tight : Text.Tight word
  solid : Token.isSolid false word = true
  closed : Token.quotedAfter false word = false
  last : word.getLast? ≠ some '\x7b'

namespace Chunk

def text (chunk : Chunk) : Text :=
  chunk.gap.text ++ chunk.word

/-- Chunks one behind the other. -/
def write (chunks : List Chunk) : Text :=
  chunks.flatMap text

@[simp] theorem write_cons (chunk : Chunk) (rest : List Chunk) :
    write (chunk :: rest) = chunk.text ++ write rest := rfl

@[simp] theorem write_append (a b : List Chunk) : write (a ++ b) = write a ++ write b :=
  List.flatMap_append

/-- The tokens of chunks, the first of which starts at a position. -/
def tokens : Nat → List Chunk → List Token
  | _, [] => []
  | start, chunk :: rest =>
    ⟨chunk.word, ⟨start + chunk.gap.text.size, start + chunk.gap.text.size + chunk.word.size⟩⟩ ::
      tokens (start + chunk.text.size) rest

/-- A plain text without blanks is a token. -/
def ofPlain (gap : Gap) {word : Text} (hTight : Text.Tight word) (hPlain : Plain word)
    (hBlank : word.hasBlank = false) : Chunk where
  gap := gap
  word := word
  tight := hTight
  solid := Token.isSolid_of_hasBlank hBlank
  closed := hPlain.quotedAfter
  last := fun hLast => hPlain.not_mem rfl (List.mem_of_getLast? hLast)

theorem tokens_append (start : Nat) (a b : List Chunk) :
    tokens start (a ++ b) = tokens start a ++ tokens (start + (write a).size) b := by
  induction a generalizing start with
  | nil => rfl
  | cons chunk a ih =>
      rw [List.cons_append, tokens, ih, tokens, write_cons, Text.size_append, List.cons_append,
        ← Nat.add_assoc start chunk.text.size]

theorem map_text_tokens (start : Nat) (chunks : List Chunk) :
    (tokens start chunks).map Token.text = chunks.map word := by
  induction chunks generalizing start with
  | nil => rfl
  | cons chunk rest ih => rw [tokens, List.map_cons, ih, List.map_cons]

theorem exists_of_mem_tokens {start : Nat} {chunks : List Chunk} {token : Token}
    (h : token ∈ tokens start chunks) : ∃ chunk ∈ chunks, chunk.word = token.text := by
  have hText := List.mem_map_of_mem (f := Token.text) h
  rw [map_text_tokens] at hText
  exact List.mem_map.mp hText

theorem border {word : Text} (hClosed : Token.quotedAfter false word = false) (rest : List Chunk)
    (trail : Space) : Token.Border false word (write rest ++ trail.text) := by
  have hGap {gap : Text} (hAll : isAllGap gap = true) (hne : gap ≠ []) (behind : Text) :
      Token.Border false word (gap ++ behind) := by
    refine Or.inr ⟨hClosed, gap.head hne, ?_, List.all_eq_true.mp hAll _ (List.head_mem hne)⟩
    rw [List.head?_append_of_ne_nil _ hne, List.head?_eq_some_head hne]
  cases rest with
  | nil =>
      by_cases hTrail : trail.text = []
      · exact Or.inl hTrail
      · have hBorder := hGap trail.gap hTrail []
        rwa [List.append_nil] at hBorder
  | cons next rest =>
      rw [write_cons, text, List.append_assoc, List.append_assoc]
      exact hGap next.gap.gap next.gap.ne_nil _

/-- The tokens of the text of chunks are their tokens. -/
theorem layout_tokens (start : Nat) (chunks : List Chunk) (trail : Space) :
    Token.Layout start (write chunks ++ trail.text) (tokens start chunks) := by
  induction chunks generalizing start with
  | nil => exact .gap trail.gap
  | cons chunk rest ih =>
      have hRest := ih (start + chunk.text.size)
      rw [text, Text.size_append, ← Nat.add_assoc] at hRest
      rw [write_cons, List.append_assoc, tokens, text, Text.size_append, ← Nat.add_assoc]
      exact .token chunk.gap.gap chunk.tight.ne_nil chunk.solid (border chunk.closed rest trail) hRest

/-- The last token stops where the text of the chunks does. -/
theorem stop_last (start : Nat) (chunk : Chunk) (more : List Chunk) :
    (((tokens start (chunk :: more)).map Token.span).getLast (by simp [tokens])).stop =
      start + (write (chunk :: more)).size := by
  induction more generalizing start chunk with
  | nil =>
      change start + chunk.gap.text.size + chunk.word.size = _
      simp [write, text, Nat.add_assoc]
  | cons next more ih =>
      have hNext := ih (start + chunk.text.size) next
      rw [write_cons, Text.size_append, ← Nat.add_assoc, ← hNext]
      rfl

/-- The text of chunks ends with a token. -/
theorem exists_last {chunks : List Chunk} (h : chunks ≠ []) :
    ∃ front word, write chunks = front ++ word ∧ Text.Tight word ∧
      word.getLast? ≠ some '\x7b' := by
  obtain ⟨init, chunk, rfl⟩ := (List.eq_nil_or_concat chunks).resolve_left h
  refine ⟨write init ++ chunk.gap.text, chunk.word, ?_, chunk.tight, chunk.last⟩
  simp [write, text]

end Chunk

theorem Remark.tight (remark : Remark) : Text.Tight remark.quoted :=
  ⟨⟨'"', rfl, rfl⟩, ⟨'"', by rw [quoted, List.getLast?_concat], rfl⟩⟩

/-- A remark in its quotes is one token, whatever gaps are in it. -/
def Remark.chunk (remark : Remark) (gap : Gap) : Chunk where
  gap := gap
  word := remark.quoted
  tight := remark.tight
  solid := by
    have hOpen : Token.isSolid true (remark.text ++ ['"']) = true := by
      rw [Token.isSolid_append, Token.isSolid_quoted remark.quote,
        Token.quotedAfter_of_not_mem remark.quote]
      rfl
    exact hOpen
  closed := by
    have hOpen : Token.quotedAfter true (remark.text ++ ['"']) = false := by
      rw [Token.quotedAfter_append, Token.quotedAfter_of_not_mem remark.quote]
      rfl
    exact hOpen
  last := by
    rw [quoted, List.getLast?_concat]
    decide

def Piece.chunk (piece : Piece) (gap : Gap) : Chunk :=
  .ofPlain gap piece.tight piece.plain piece.hasBlank

def Modifier.chunk (m : Modifier) (gap : Gap) : Chunk :=
  .ofPlain gap m.tight m.plain m.hasBlank

namespace Attribute

variable (a : Attribute) (trail : Space)

/-- The pieces of the name. -/
def pieces : List Chunk :=
  a.name.first.chunk a.gap :: a.name.more.map fun next => next.2.chunk next.1

/-- The key modifiers and the remark. -/
def trailing : List Chunk :=
  (a.modifiers.map fun (gap, m) => m.chunk gap) ++
    (a.remark?.map fun (gap, remark) => remark.chunk gap).toList

theorem write_pieces :
    Chunk.write a.pieces = a.gap.text ++ a.name.text (Ident.text ∘ Piece.toIdent) := by
  simp [Chunk.write, pieces, Chain.text, Chunk.text, Piece.chunk, Chunk.ofPlain, List.flatMap_map]

theorem write_trailing :
    Chunk.write a.trailing = modifiersText a.modifiers ++ remarkText a.remark? := by
  rw [trailing, Chunk.write_append]
  congr 1
  · simp [Chunk.write, modifiersText, Chunk.text, Modifier.chunk, Chunk.ofPlain, List.flatMap_map]
  · cases a.remark? with
    | none => rfl
    | some remark => simp [Chunk.write, remarkText, Chunk.text, Remark.chunk]

theorem text_eq : a.text = a.dataType.text ++ Chunk.write (a.pieces ++ a.trailing) := by
  rw [Chunk.write_append, write_pieces, write_trailing]
  simp [text]

/-- The token of the type, at the start of the line. -/
def typeToken : Token :=
  ⟨a.dataType.text, ⟨0, a.dataType.text.size⟩⟩

def pieceTokens : List Token :=
  Chunk.tokens a.dataType.text.size a.pieces

def trailingTokens : List Token :=
  Chunk.tokens (a.dataType.text.size + (Chunk.write a.pieces).size) a.trailing

theorem layout : Token.Layout 0 (a.text ++ trail.text)
    (a.typeToken :: (a.pieceTokens ++ a.trailingTokens)) := by
  have hRest := Chunk.layout_tokens a.dataType.text.size (a.pieces ++ a.trailing) trail
  have hBorder := Chunk.border a.dataType.plain.quotedAfter (a.pieces ++ a.trailing) trail
  have hSolid := Token.isSolid_of_hasBlank a.dataType.hasBlank
  rw [Chunk.tokens_append] at hRest
  have hLayout : Token.Layout 0 ([] ++ a.dataType.text ++ _) _ :=
    .token isAllGap_nil a.dataType.ne_nil hSolid hBorder (by simpa using hRest)
  rw [a.text_eq, List.append_assoc]
  simpa [typeToken, pieceTokens, trailingTokens] using hLayout

theorem exists_piece {chunk : Chunk} (h : chunk ∈ a.pieces) : ∃ piece : Piece, chunk.word = piece.text := by
  rcases List.mem_cons.mp h with rfl | hMore
  · exact ⟨a.name.first, rfl⟩
  · obtain ⟨⟨gap, piece⟩, -, rfl⟩ := List.mem_map.mp hMore
    exact ⟨piece, rfl⟩

theorem exists_trailing {chunk : Chunk} (h : chunk ∈ a.trailing) :
    (∃ m : Modifier, chunk.word = m.text) ∨ ∃ remark : Remark, chunk.word = remark.quoted := by
  rcases List.mem_append.mp h with hModifier | hRemark
  · obtain ⟨⟨gap, m⟩, -, rfl⟩ := List.mem_map.mp hModifier
    exact Or.inl ⟨m, rfl⟩
  · rw [Option.mem_toList, Option.map_eq_some_iff] at hRemark
    obtain ⟨⟨gap, remark⟩, -, rfl⟩ := hRemark
    exact Or.inr ⟨remark, rfl⟩

/-- The tokens of the line, told apart by what they are. -/
theorem tokens : Reading.AttributeTokens Grammar.mermaid (a.text ++ trail.text) a.typeToken
    a.pieceTokens a.trailingTokens where
  layout := a.layout trail
  pieces := by
    intro token hToken
    obtain ⟨chunk, hChunk, hText⟩ := Chunk.exists_of_mem_tokens hToken
    obtain ⟨piece, hWord⟩ := a.exists_piece hChunk
    have hQuote : (piece.text.head? == some '"') = false := by
      rw [beq_eq_false_iff_ne]
      exact fun hHead => piece.plain.not_mem rfl (List.mem_of_head? hHead)
    rw [Reading.isNamePiece, Token.isQuoted, ← hText, hWord, hQuote, piece.notModifier]
    rfl
  trailing := by
    intro token hToken
    obtain ⟨chunk, hChunk, hText⟩ := Chunk.exists_of_mem_tokens (List.mem_of_head? hToken)
    rw [Reading.isNamePiece, Token.isQuoted, ← hText]
    rcases a.exists_trailing hChunk with ⟨m, hWord⟩ | ⟨remark, hWord⟩
    · rw [hWord, m.isModifier, Bool.not_true, Bool.and_false]
    · rw [hWord]
      rfl

theorem plain_modifiersText (modifiers : List (Gap × Modifier)) : Plain (modifiersText modifiers) :=
  .flatMap fun (gap, m) _ => gap.plain.append m.plain

theorem quiet_remarkText (remark? : Option (Gap × Remark)) : Quiet (remarkText remark?) := by
  cases remark? with
  | none => exact .of_plain nofun
  | some next => exact (Quiet.of_plain next.1.plain).append (.of_remark next.2)

theorem quiet_of_name {name : Text} (h : Plain name) :
    Quiet (a.dataType.text ++ a.gap.text ++ name ++ modifiersText a.modifiers ++
      remarkText a.remark?) :=
  (Quiet.of_plain (((a.dataType.plain.append a.gap.plain).append h).append
    (plain_modifiersText a.modifiers))).append (quiet_remarkText a.remark?)

theorem plain_name : Plain (a.name.text (Ident.text ∘ Piece.toIdent)) :=
  a.name.plain fun piece => piece.plain

theorem plain_joined (name : Chain Piece) : Plain (joined name) :=
  .flatMap fun piece _ => piece.plain

theorem quiet : Quiet a.text :=
  a.quiet_of_name a.plain_name

/-- The line ends with a token, but not with a brace. -/
theorem exists_last : ∃ middle word, a.text = a.dataType.text ++ middle ++ word ∧
    Text.Tight word ∧ word.getLast? ≠ some '\x7b' := by
  obtain ⟨middle, word, hWrite, hTight, hLast⟩ :=
    @Chunk.exists_last (a.pieces ++ a.trailing) (List.cons_ne_nil _ _)
  refine ⟨middle, word, ?_, hTight, hLast⟩
  rw [a.text_eq, hWrite, List.append_assoc]

theorem tight : Text.Tight a.text := by
  obtain ⟨middle, word, hText, hTight, -⟩ := a.exists_last
  rw [hText]
  exact a.dataType.tight.append hTight middle

theorem newline : '\n' ∉ a.text := by
  have hPlain {t : Text} (h : Plain t) : '\n' ∉ t := h.not_mem rfl
  have hRemark : '\n' ∉ remarkText a.remark? := by
    cases a.remark? with
    | none => exact List.not_mem_nil
    | some next => simp [remarkText, Remark.quoted, hPlain next.1.plain, next.2.newline]
  simp [text, hPlain a.dataType.plain, hPlain a.gap.plain, hPlain a.plain_name,
    hPlain (plain_modifiersText a.modifiers), hRemark]

theorem header?_eq_none : Reading.header? Grammar.mermaid (a.text ++ trail.text) = none := by
  apply Option.eq_none_iff_forall_ne_some.mpr
  intro span hSome
  obtain ⟨s, hValid, hText, -⟩ :=
    Reading.exists_valid_header Grammar.isMermaid_mermaid.wellFormed hSome
  obtain ⟨middle, word, hWord, hTight, hLast⟩ := a.exists_last
  have hTrim := congrArg Text.trimEnd hText
  rw [Text.trimEnd_append_of_blank _ trail.isAllBlank, a.tight.trimEnd_eq, HeaderLayout.text,
    Reading.trimEnd_brace _ hValid.trail, hWord] at hTrim
  have hBrace := congrArg List.getLast? hTrim
  rw [List.getLast?_append_of_ne_nil _ hTight.ne_nil, List.getLast?_concat] at hBrace
  exact hLast hBrace

/-- What the line starts with up to the first piece of its name is plain, and two words. -/
theorem exists_front : ∃ behind, a.text = a.dataType.text ++ a.gap.text ++ a.name.first.text ++ behind := by
  refine ⟨(a.name.more.flatMap fun (gap, piece) => gap.text ++ piece.text) ++
    modifiersText a.modifiers ++ remarkText a.remark?, ?_⟩
  simp [text, Chain.text]

/-- An operator can only stand behind two words, so the line is no relationship. -/
theorem closingRelationship?_eq_none :
    Reading.closingRelationship? Grammar.mermaid (a.text ++ trail.text) = none := by
  apply Option.eq_none_iff_forall_ne_some.mpr
  intro parts hSome
  obtain ⟨s, hValid, hWord, hText, -⟩ := Reading.closingRelationship?_eq_some_iff.mp hSome
  obtain ⟨behind, hFront⟩ := a.exists_front
  have hPlain : Plain (a.dataType.text ++ a.gap.text ++ a.name.first.text) :=
    (a.dataType.plain.append a.gap.plain).append a.name.first.plain
  obtain ⟨c, rest, hOperator, hc⟩ := exists_head_of_operator hValid.operator.mem
  have hNot : c ∉ a.dataType.text ++ a.gap.text ++ a.name.first.text := by
    rcases hc with rfl | rfl
    · exact hPlain.not_mem rfl
    · exact hPlain.not_mem rfl
  rw [hFront, s.text_eq_operator, List.append_assoc, List.append_assoc s.beforeOperator] at hText
  have hBefore : ∃ z, s.beforeOperator = a.dataType.text ++ a.gap.text ++ a.name.first.text ++ z := by
    rcases List.append_eq_append_iff.mp hText with ⟨z, hz, -⟩ | ⟨z, hz, hOther⟩
    · exact ⟨z, hz⟩
    · cases z with
      | nil => exact ⟨[], by simpa using hz.symm⟩
      | cons d z =>
          rw [hOperator, List.cons_append, List.cons_append] at hOther
          obtain ⟨rfl, -⟩ := List.cons.inj hOther
          exact absurd (hz ▸ by simp) hNot
  obtain ⟨z, hz⟩ := hBefore
  rw [← hValid.trim_beforeOperator, hz, List.append_assoc] at hWord
  have hBlank := Text.isAllBlank_of_word a.dataType.tight.head a.gap.ne_nil a.gap.isAllBlank hWord
  rw [Text.isAllBlank_append, a.name.first.tight.not_isAllBlank] at hBlank
  cases hBlank

theorem trim_ne : (a.text ++ trail.text).trim ≠ ['\x7d'] := by
  obtain ⟨behind, hFront⟩ := a.exists_front
  obtain ⟨c, hc⟩ := List.exists_mem_of_ne_nil _ a.dataType.ne_nil
  refine Text.trim_ne_singleton rfl (d := c) (by simp [hFront, hc])
    (Text.hasBlank_eq_false_iff.mp a.dataType.hasBlank c hc) ?_
  rintro rfl
  exact a.dataType.plain.not_mem rfl hc

theorem reads : Reading.Reads Grammar.mermaid true (a.text ++ trail.text)
    (.entityAttribute (Reading.attributeParts Grammar.mermaid (a.text ++ trail.text))) :=
  .entityAttribute rfl (a.trim_ne trail) (a.closingRelationship?_eq_none trail)
    (a.header?_eq_none trail)

/-- The line with its name between what stands before it and behind. -/
def place : NamePlace where
  dataType := a.dataType.text
  gap := a.gap.text
  name := a.name.text (Ident.text ∘ Piece.toIdent)
  rest := modifiersText a.modifiers ++ remarkText a.remark? ++ trail.text

theorem text_place : (a.place trail).text = a.text ++ trail.text := by
  simp [place, NamePlace.text, NamePlace.front, text]

theorem text_renamed (name : Text) : ((a.place trail).renamed name).text =
    a.dataType.text ++ a.gap.text ++ name ++ modifiersText a.modifiers ++ remarkText a.remark? ++
      trail.text := by
  simp [place, NamePlace.text, NamePlace.front, NamePlace.renamed]

/-- Only a key modifier keeps the pieces of a name apart. -/
theorem keepsPieces_place :
    Repair.keepsPieces Grammar.mermaid (a.place trail) (joined a.name) = keepsPieces a.name := by
  have hPlain := plain_joined a.name
  have hQuiet := (a.quiet_of_name hPlain).append (.of_plain trail.plain)
  have hComment : Comment.find? Grammar.mermaid.commentMarker
      ((a.place trail).renamed (joined a.name)).text = none := by
    rw [text_renamed]
    exact hQuiet.find?_eq_none
  rw [Repair.keepsPieces, hasOperator_eq_false (hPlain.not_mem rfl) (hPlain.not_mem rfl), hComment,
    Bool.false_or, Option.isSome_none, Bool.or_false]
  rfl

theorem join_pieces : AttributeName.join
    ((Reading.attributeParts Grammar.mermaid (a.text ++ trail.text)).name.map
      (a.text ++ trail.text).slice) = joined a.name := by
  have hName := congrArg AttributeTexts.name (a.tokens trail).texts_eq
  refine hName.trans ?_
  change a.pieceTokens.flatMap Token.text = _
  rw [List.flatMap_def, pieceTokens, Chunk.map_text_tokens, joined, List.flatMap_def]
  congr 1
  simp [pieces, Chain.items, Piece.chunk, Chunk.ofPlain]

/-- The name of several pieces stands at its place. -/
theorem decisions_of_pieces (h : a.name.more ≠ []) :
    Repair.nameDecisions Grammar.mermaid (a.place trail).text
        (Reading.attributeParts Grammar.mermaid (a.place trail).text) =
      if keepsPieces a.name then [.keepName (joined a.name)]
      else [.joinName ⟨(a.place trail).front.size,
        (a.place trail).front.size + (a.place trail).name.size⟩ (a.place trail).name
          (joined a.name)] := by
  obtain ⟨⟨gap, piece⟩, more, hMore⟩ := List.exists_cons_of_ne_nil h
  have hParts := congrArg AttributeParts.name (a.tokens trail).parts_eq
  have hJoined := a.join_pieces trail
  rw [← a.text_place trail] at hParts hJoined
  have hPieces : a.pieces = a.name.first.chunk a.gap :: piece.chunk gap ::
      more.map fun next => next.2.chunk next.1 := by
    rw [pieces, hMore, List.map_cons]
  have hStop := Chunk.stop_last (a.dataType.text.size + (a.name.first.chunk a.gap).text.size)
    (piece.chunk gap) (more.map fun next => next.2.chunk next.1)
  have hSize := congrArg Text.size a.write_pieces
  rw [hPieces, Chunk.write_cons, Text.size_append, Text.size_append] at hSize
  simp only [pieceTokens, hPieces, Chunk.tokens, List.map_cons] at hParts hStop
  rw [Repair.nameDecisions_eq hParts hJoined.symm (Text.size_append _ _).symm,
    a.keepsPieces_place trail]
  refine hStop.trans ?_
  change _ = (a.dataType.text ++ a.gap.text).size + (a.name.text (Ident.text ∘ Piece.toIdent)).size
  rw [Text.size_append]
  omega

/-- What is decided on the name: nothing when it is in one piece, and to leave it in pieces when they
make a key modifier. -/
theorem decisions_cases :
    (a.name.more = [] ∧ joined a.name = a.name.text (Ident.text ∘ Piece.toIdent) ∧
        Repair.nameDecisions Grammar.mermaid (a.place trail).text
          (Reading.attributeParts Grammar.mermaid (a.place trail).text) = []) ∨
      (a.name.more ≠ [] ∧ Repair.nameDecisions Grammar.mermaid (a.place trail).text
        (Reading.attributeParts Grammar.mermaid (a.place trail).text) =
          if keepsPieces a.name then [.keepName (joined a.name)]
          else [.joinName ⟨(a.place trail).front.size,
            (a.place trail).front.size + (a.place trail).name.size⟩ (a.place trail).name
              (joined a.name)]) := by
  by_cases hMore : a.name.more = []
  · refine Or.inl ⟨hMore, by simp [joined, Chain.items, Chain.text, hMore], ?_⟩
    refine Repair.nameDecisions_of_length_le ?_
    rw [a.text_place, (a.tokens trail).parts_eq]
    simp [pieceTokens, pieces, hMore, Chunk.tokens]
  · exact Or.inr ⟨hMore, a.decisions_of_pieces trail hMore⟩

theorem newCode_eq : Repair.newCode Grammar.mermaid (a.place trail).text
    (.entityAttribute (Reading.attributeParts Grammar.mermaid (a.place trail).text)) =
      a.repaired ++ trail.text := by
  rw [Repair.newCode, Repair.codeDecisions]
  rcases a.decisions_cases trail with ⟨-, hJoined, hNone⟩ | ⟨-, hSome⟩
  · rw [hNone, a.text_place, text, repaired, hJoined, ite_self]
    exact Edit.applyAll_nil _
  · rw [hSome, repaired]
    cases keepsPieces a.name with
    | true =>
        rw [if_pos rfl, if_pos rfl, a.text_place]
        exact Edit.applyAll_nil _
    | false =>
        rw [if_neg Bool.false_ne_true, if_neg Bool.false_ne_true, ← a.text_renamed]
        exact NamePlace.applyAll_name _ _

theorem tally_decisions : Tally.sum ((Repair.codeDecisions Grammar.mermaid (a.place trail).text
    (.entityAttribute (Reading.attributeParts Grammar.mermaid (a.place trail).text))).map
      Decision.tally) = a.repairs := by
  rw [Repair.codeDecisions, repairs]
  rcases a.decisions_cases trail with ⟨hMore, -, hNone⟩ | ⟨hMore, hSome⟩
  · rw [hNone, hMore]
    rfl
  · rw [hSome, decide_eq_false hMore, Bool.false_or]
    cases keepsPieces a.name with
    | true => rfl
    | false => rfl

theorem treated : (Code.entityAttribute a).Treated true trail
    (.entityAttribute (Reading.attributeParts Grammar.mermaid (a.text ++ trail.text))) := by
  have hText := a.text_place trail
  refine ⟨a.reads trail, ?_, ?_, rfl, fun _ h => h⟩
  · change Repair.newCode _ (a.text ++ trail.text) _ = _
    rw [← hText]
    exact a.newCode_eq trail
  · change Tally.sum ((Repair.codeDecisions _ (a.text ++ trail.text) _).map _) = _
    rw [← hText]
    exact a.tally_decisions trail

end Attribute

end Document

end ErDiagram
