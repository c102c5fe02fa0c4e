import ErDiagram.Text.Basic

/-!
What a run over a text has repaired. Lines are numbered from one.
-/

namespace ErDiagram

/-- How many repairs of each kind were made. -/
structure Tally where
  commentsStripped : Nat := 0
  entityNamesRepaired : Nat := 0
  attributeNamesJoined : Nat := 0
  labelsCamelCased : Nat := 0
deriving DecidableEq

namespace Tally

def add (a b : Tally) : Tally where
  commentsStripped := a.commentsStripped + b.commentsStripped
  entityNamesRepaired := a.entityNamesRepaired + b.entityNamesRepaired
  attributeNamesJoined := a.attributeNamesJoined + b.attributeNamesJoined
  labelsCamelCased := a.labelsCamelCased + b.labelsCamelCased

instance : Add Tally := ⟨add⟩

def sum : List Tally → Tally
  | [] => {}
  | t :: rest => t + sum rest

/-- The number of repairs of all kinds. -/
def total (t : Tally) : Nat :=
  t.commentsStripped + t.entityNamesRepaired + t.attributeNamesJoined + t.labelsCamelCased

theorem add_assoc (a b c : Tally) : a + b + c = a + (b + c) := by
  change add (add a b) c = add a (add b c)
  simp only [add, Nat.add_assoc]

@[simp] theorem zero_add (a : Tally) : ({} : Tally) + a = a := by
  change add {} a = a
  simp only [add, Nat.zero_add]

theorem sum_append (a b : List Tally) : sum (a ++ b) = sum a + sum b := by
  induction a with
  | nil => exact (zero_add _).symm
  | cons t a ih => rw [List.cons_append, sum, ih, sum, add_assoc]

end Tally

structure Report where
  linesTotal : Nat
  changedLines : List Nat
  tally : Tally
deriving DecidableEq

namespace Report

def linesChanged (r : Report) : Nat :=
  r.changedLines.length

def isClean (r : Report) : Bool :=
  r.changedLines.isEmpty

def repairCount (r : Report) : Nat :=
  r.tally.total

/-- The report in one line. -/
def summary (r : Report) : Text :=
  Text.ofNat r.linesChanged ++ "/".toList ++ Text.ofNat r.linesTotal ++
    " lines changed (".toList ++ Text.ofNat r.tally.commentsStripped ++
    " comments stripped, ".toList ++ Text.ofNat r.tally.entityNamesRepaired ++
    " entity names repaired, ".toList ++ Text.ofNat r.tally.attributeNamesJoined ++
    " attribute names joined, ".toList ++ Text.ofNat r.tally.labelsCamelCased ++
    " labels camel-cased)".toList

/-- A member of a JSON object on a line of its own. -/
def member (key : String) (value : Text) : Text :=
  "  \"".toList ++ key.toList ++ "\": ".toList ++ value

/-- Numbers as a JSON array that is itself the value of a member, one number a line. -/
def jsonNumbers : List Nat → Text
  | [] => "[]".toList
  | numbers =>
    "[\n".toList ++
      [',', '\n'].intercalate (numbers.map fun n => "    ".toList ++ Text.ofNat n) ++
      "\n  ]".toList

/-- The report as a JSON object, indented by two spaces. -/
def json (r : Report) : Text :=
  "\x7b\n".toList ++
    [',', '\n'].intercalate [
      member "clean" (if r.isClean then "true".toList else "false".toList),
      member "lines_total" (Text.ofNat r.linesTotal),
      member "changed_lines" (jsonNumbers r.changedLines),
      member "comments_stripped" (Text.ofNat r.tally.commentsStripped),
      member "entity_names_repaired" (Text.ofNat r.tally.entityNamesRepaired),
      member "attribute_names_joined" (Text.ofNat r.tally.attributeNamesJoined),
      member "labels_camel_cased" (Text.ofNat r.tally.labelsCamelCased)] ++
    "\n\x7d".toList

end Report

end ErDiagram
