import ErDiagram.Grammar.Basic
import ErDiagram.Line
import ErDiagram.Proofs.Gap
import ErDiagram.Report

/-!
Documents in the language that diagrams are meant to be written in, with the noise that a repair is
for. A document is data: what stands on its lines, with every gap between. How it is written, how it
is written once it is repaired, and what has to be repaired are read off that data, and nothing of it
refers to how the lines of a text are read.
-/

namespace ErDiagram

/-- Letters and digits of ASCII, and the underscore. -/
def isIdentChar (c : Char) : Bool :=
  c.isAlphanum || c == '_'

def isNameChar (c : Char) : Bool :=
  isIdentChar c || c == '-'

namespace Document

/-- Spaces and tabs, or nothing. -/
structure Space where
  text : Text
  gap : isAllGap text = true

/-- At least one space or tab. -/
structure Gap extends Space where
  ne_nil : text ≠ []

structure Ident where
  text : Text
  ne_nil : text ≠ []
  chars : ∀ c ∈ text, isIdentChar c = true

/-- The name of an entity, with hyphens or without. -/
structure Name where
  text : Text
  ne_nil : text ≠ []
  chars : ∀ c ∈ text, isNameChar c = true

/-- An identifier that is checked where it is written down. -/
def Ident.ofText (text : Text) (h : text ≠ [] ∧ text.all isIdentChar = true := by decide) : Ident :=
  ⟨text, h.1, List.all_eq_true.mp h.2⟩

def Name.ofText (text : Text) (h : text ≠ [] ∧ text.all isNameChar = true := by decide) : Name :=
  ⟨text, h.1, List.all_eq_true.mp h.2⟩

/-- A piece of the name of an attribute. -/
structure Piece extends Ident where
  notModifier : Grammar.mermaid.isKeyModifier text = false

structure Modifier where
  text : Text
  isModifier : Grammar.mermaid.isKeyModifier text = true

structure Operator where
  text : Text
  mem : text ∈ Grammar.standardOperators

/-- What stands between the quotes of a remark. -/
structure Remark where
  text : Text
  quote : '"' ∉ text
  newline : '\n' ∉ text

/-- Anything up to the ending of a line. -/
structure RestOfLine where
  text : Text
  newline : '\n' ∉ text

/-- Things one behind the other, with gaps between. -/
structure Chain (α : Type) where
  first : α
  more : List (Gap × α)

namespace Chain

variable {α : Type}

def items (chain : Chain α) : List α :=
  chain.first :: chain.more.map Prod.snd

def text (chain : Chain α) (write : α → Text) : Text :=
  write chain.first ++ chain.more.flatMap fun (gap, item) => gap.text ++ write item

end Chain

/-- A label with the colon in front of it. -/
structure Label where
  gap : Space
  gap' : Space
  words : Chain Ident

structure Attribute where
  dataType : Ident
  gap : Gap
  name : Chain Piece
  modifiers : List (Gap × Modifier)
  remark? : Option (Gap × Remark)

structure Relationship where
  left : Name
  gap : Space
  operator : Operator
  gap' : Space
  right : Name
  label? : Option Label

/-- What stands on a line that can need a repair. -/
inductive Code where
  | entityHeader (name : Name) (gap : Space)
  | entityFooter
  | entityAttribute (a : Attribute)
  | relationship (r : Relationship)

/-- What follows it: a gap at most, or a comment behind one. -/
structure Tail where
  gap : Space
  comment? : Option RestOfLine

inductive Item where
  | keyword
  | blank
  | directive (rest : RestOfLine)
  | code (code : Code) (tail : Tail)

/-! How a document is written. -/

def Label.text (label : Label) : Text :=
  label.gap.text ++ ':' :: label.gap'.text ++ label.words.text Ident.text

def modifiersText (modifiers : List (Gap × Modifier)) : Text :=
  modifiers.flatMap fun (gap, modifier) => gap.text ++ modifier.text

def Remark.quoted (remark : Remark) : Text :=
  '"' :: remark.text ++ ['"']

def remarkText (remark? : Option (Gap × Remark)) : Text :=
  match remark? with
  | some (gap, remark) => gap.text ++ remark.quoted
  | none => []

def Attribute.text (a : Attribute) : Text :=
  a.dataType.text ++ a.gap.text ++ a.name.text (Ident.text ∘ Piece.toIdent) ++
    modifiersText a.modifiers ++ remarkText a.remark?

def Relationship.text (r : Relationship) : Text :=
  r.left.text ++ r.gap.text ++ r.operator.text ++ r.gap'.text ++ r.right.text ++
    (r.label?.map Label.text).getD []

def Code.text : Code → Text
  | .entityHeader name gap => name.text ++ gap.text ++ ['\x7b']
  | .entityFooter => ['\x7d']
  | .entityAttribute a => a.text
  | .relationship r => r.text

def Tail.text (tail : Tail) : Text :=
  tail.gap.text ++ (tail.comment?.map fun rest => '/' :: '/' :: rest.text).getD []

def Item.text : Item → Text
  | .keyword => "erDiagram".toList
  | .blank => []
  | .directive rest => '%' :: '%' :: rest.text
  | .code body tail => body.text ++ tail.text

/-- A line of a document. A carriage return in front of a bare line feed would be part of the
ending. -/
structure Row where
  indent : Space
  item : Item
  ending : Ending
  carriage : ending = .lf → item.text.getLast? ≠ some '\r'

def Row.line (row : Row) : Line :=
  ⟨row.indent.text ++ row.item.text, row.ending⟩

/-! How it is written once it is repaired. -/

def Name.repaired (name : Name) : Text :=
  name.text.map fun c => if c = '-' then '_' else c

/-- The pieces of a name put together. -/
def joined (name : Chain Piece) : Text :=
  name.items.flatMap fun piece => piece.text

/-- A name whose pieces make a key modifier stays in pieces. -/
def keepsPieces (name : Chain Piece) : Bool :=
  Grammar.mermaid.isKeyModifier (joined name)

/-- A word with a capital at its start. -/
def capitalized : Text → Text
  | [] => []
  | c :: rest => c.toUpper :: rest

/-- The words of a label put together, each but the first with a capital. -/
def camelCased (words : Chain Ident) : Text :=
  words.first.text ++ words.more.flatMap fun (_, word) => capitalized word.text

def Label.repaired (label : Label) : Text :=
  label.gap.text ++ ':' :: label.gap'.text ++ camelCased label.words

def Attribute.repaired (a : Attribute) : Text :=
  a.dataType.text ++ a.gap.text ++
    (if keepsPieces a.name then a.name.text (Ident.text ∘ Piece.toIdent) else joined a.name) ++
    modifiersText a.modifiers ++ remarkText a.remark?

def Relationship.repaired (r : Relationship) : Text :=
  r.left.repaired ++ r.gap.text ++ r.operator.text ++ r.gap'.text ++ r.right.repaired ++
    (r.label?.map Label.repaired).getD []

def Code.repaired : Code → Text
  | .entityHeader name gap => name.repaired ++ gap.text ++ ['\x7b']
  | .entityFooter => ['\x7d']
  | .entityAttribute a => a.repaired
  | .relationship r => r.repaired

/-- What stays behind the code: a comment goes, and the gap in front of it. -/
def Tail.kept (tail : Tail) : Space :=
  if tail.comment?.isSome then ⟨[], rfl⟩ else tail.gap

def Item.repaired : Item → Text
  | .code body tail => body.repaired ++ tail.kept.text
  | item => item.text

def Row.repaired (row : Row) : Line :=
  ⟨row.indent.text ++ row.item.repaired, row.ending⟩

/-! What has to be repaired. -/

def Name.repairs (name : Name) : Tally :=
  if '-' ∈ name.text then { entityNamesRepaired := 1 } else {}

def Label.repairs (label : Label) : Tally :=
  if label.words.more = [] then {} else { labelsCamelCased := 1 }

def Attribute.repairs (a : Attribute) : Tally :=
  if a.name.more = [] || keepsPieces a.name then {} else { attributeNamesJoined := 1 }

def Relationship.repairs (r : Relationship) : Tally :=
  r.left.repairs + r.right.repairs + (r.label?.map Label.repairs).getD {}

def Code.repairs : Code → Tally
  | .entityHeader name _ => name.repairs
  | .entityFooter => {}
  | .entityAttribute a => a.repairs
  | .relationship r => r.repairs

def Tail.repairs (tail : Tail) : Tally :=
  if tail.comment?.isSome then { commentsStripped := 1 } else {}

def Item.repairs : Item → Tally
  | .code body tail => body.repairs + tail.repairs
  | _ => {}

/-! Where lines may stand. -/

/-- Footers and attributes stand in an open block. A header or a relationship may stand in one, which
is then missing its footer. -/
def Code.fits (inside : Bool) : Code → Bool
  | .entityHeader _ _ => true
  | .entityFooter => inside
  | .entityAttribute _ => inside
  | .relationship _ => true

/-- The keyword stands outside. -/
def Item.fits (inside : Bool) : Item → Bool
  | .keyword => !inside
  | .code body _ => body.fits inside
  | _ => true

/-- Whether a block is open behind a line. -/
def Code.leavesInside (inside : Bool) : Code → Bool
  | .entityHeader _ _ => true
  | .entityFooter => false
  | .entityAttribute _ => inside
  | .relationship _ => false

def Item.leavesInside (inside : Bool) : Item → Bool
  | .code body _ => body.leavesInside inside
  | _ => inside

/-- Lines that stand where they may. Only the last one can lack an ending. -/
def Placed : Bool → List Row → Prop
  | _, [] => True
  | inside, row :: rest =>
    row.item.fits inside = true ∧ (row.ending = .endOfText → rest = []) ∧
      Placed (row.item.leavesInside inside) rest

instance decidablePlaced : (inside : Bool) → (rows : List Row) → Decidable (Placed inside rows)
  | _, [] => isTrue trivial
  | inside, row :: rest =>
    have := decidablePlaced (row.item.leavesInside inside) rest
    inferInstanceAs (Decidable (_ ∧ (_ → rest = []) ∧ _))

end Document

/-- A document of lines that stand where they may. -/
structure Document where
  rows : List Document.Row
  placed : Document.Placed false rows

namespace Document

def text (d : Document) : Text :=
  joinLines (d.rows.map Row.line)

/-- The text of the repaired document. -/
def repaired (d : Document) : Text :=
  joinLines (d.rows.map Row.repaired)

/-- The numbers of the lines that are not written as they are in the repaired document. -/
def changedLines (d : Document) : List Nat :=
  (d.rows.zipIdx 1).filterMap fun (row, number) =>
    if row.repaired = row.line then none else some number

/-- How many repairs of each kind the document needs. -/
def repairs (d : Document) : Tally :=
  Tally.sum (d.rows.map fun row => row.item.repairs)

end Document

end ErDiagram
