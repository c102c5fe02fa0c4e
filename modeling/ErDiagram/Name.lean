import ErDiagram.Text.Blank

/-!
Names of entities and attributes. An entity name loses its hyphens, and an attribute name that was
split into several tokens is put together again.
-/

namespace ErDiagram

namespace EntityName

/-- Whether a name is written in double quotes, both of them. -/
def isQuoted (name : Text) : Bool :=
  2 ≤ name.size && name.head? == some '"' && name.getLast? == some '"'

/-- Whether a name has to be repaired. A quoted name is legal as it is, and a text with blanks is no
name. -/
def needsRepair (name : Text) : Bool :=
  name.contains '-' && !isQuoted name && !name.hasBlank

/-- The repaired name, where the name has to be repaired. -/
def repair? (name : Text) : Option Text :=
  if needsRepair name then some (name.map fun c => if c = '-' then '_' else c) else none

def repair (name : Text) : Text :=
  (repair? name).getD name

end EntityName

namespace AttributeName

/-- The pieces of a split name, one behind the other. -/
def join (pieces : List Text) : Text :=
  pieces.flatten

end AttributeName

end ErDiagram
