import ErDiagram.Log.Event
import ErDiagram.Log.Pattern
import ErDiagram.Text.Alphanumeric
import ErDiagram.Text.Binary64
import ErDiagram.Text.Blank

/-!
The rules of a log filter. A rule names a target, a stretch of a run and a field of it, each of them or
none, and says up to which level it lets events through. Rules are ordered by how specific they are, and
two rules that only differ in their levels have the same place in that order.
-/

namespace ErDiagram.Log

/-- The least serious level that is let through, if any is. -/
abbrev Threshold := Option Level

namespace Threshold

/-- The number of levels that are let through. -/
def rank (threshold : Threshold) : Nat :=
  (threshold.map (·.verbosity + 1)).getD 0

/-- Whether a threshold lets a level through. -/
def admits (threshold : Threshold) (level : Level) : Bool :=
  threshold.any fun least => level.verbosity ≤ least.verbosity

/-- The threshold that lets through what any of some thresholds does. -/
def most (thresholds : List Threshold) : Threshold :=
  thresholds.foldl (fun a b => if a.rank < b.rank then b else a) none

def name (threshold : Threshold) : Text :=
  (threshold.map Level.name).getD "off".toList

/-- The thresholds, ordered by the number that also stands for them. -/
def all : List Threshold :=
  [none, some .error, some .warn, some .info, some .debug, some .trace]

/-- The threshold with a name, in any case, or with a number. -/
def ofText? (t : Text) : Option Threshold :=
  ((Text.natural? t).bind fun n => all[n]?).or
    (all.find? fun threshold => name threshold == t.foldCase)

end Threshold

/-- The value that a rule asks of a field. -/
inductive Sample where
  | flag (value : Bool)
  | decimal (value : Binary64)
  | notANumber
  | natural (value : Nat)
  | integer (value : Int)
  | pattern (written : Text)
deriving DecidableEq, Ord

namespace Sample

/-- The value with a written form: the first of a truth value, a natural number, a whole number, a
decimal number and a pattern that the form is. Numbers have 64 bits, and a decimal number is the nearest
one that has them. -/
def ofText? (t : Text) : Option Sample :=
  if t = "true".toList then some (.flag true)
  else if t = "false".toList then some (.flag false)
  else
    let natural? := (Text.natural? t).bind fun n =>
      if n < 0x10000000000000000 then some (natural n) else none
    let integer? := (Text.integer? t).bind fun n =>
      if -0x8000000000000000 ≤ n ∧ n < 0x8000000000000000 then some (integer n) else none
    match natural?.or integer? with
    | some sample => some sample
    | none =>
      if Text.isNotANumber t then some .notANumber
      else
        match Binary64.ofText? t with
        | some value => some (.decimal value)
        | none => if Pattern.isWellFormed t then some (.pattern t) else none

def text : Sample → Text
  | .flag value => if value then "true".toList else "false".toList
  | .decimal value => value.text
  | .notANumber => "NaN".toList
  | .natural value => Text.ofNat value
  | .integer value =>
    if value < 0 then '-' :: Text.ofNat value.natAbs else Text.ofNat value.natAbs
  | .pattern written => written

/-- Whether a number is the value. Only natural numbers are compared with numbers. -/
def matchesNumber : Sample → Nat → Bool
  | .natural value, n => value == n
  | _, _ => false

end Sample

/-- A field by its name, and perhaps its value. -/
structure FieldTest where
  name : Text
  value? : Option Sample
deriving DecidableEq

namespace FieldTest

/-- A field from its written form: a name, or a name and a value with an equals sign between them. What
stands behind another equals sign does not count. -/
def ofText? (t : Text) : Option FieldTest :=
  if t.isEmpty then none
  else
    match t.splitOn '=' with
    | name :: value :: _ => (Sample.ofText? value).map fun sample => ⟨name, some sample⟩
    | _ => some ⟨t, none⟩

def text (field : FieldTest) : Text :=
  match field.value? with
  | some sample => field.name ++ '=' :: sample.text
  | none => field.name

/-- Fields with a value come last, and then the names and the values decide. -/
def order (a b : FieldTest) : Ordering :=
  (compare a.value?.isSome b.value?.isSome).then <|
    (compare a.name b.name).then (compare a.value? b.value?)

end FieldTest

/-- A rule. Without a target it is for all targets, otherwise for those that begin with it. -/
structure Rule where
  target? : Option Text := none
  extent? : Option Text := none
  field? : Option FieldTest := none
  threshold : Threshold := some .trace
deriving DecidableEq

namespace Rule

/-- Whether the rule judges single events: it names no stretch, and no value. -/
def isPlain (rule : Rule) : Bool :=
  rule.extent?.isNone && !rule.field?.any (·.value?.isSome)

/-- Whether the rule opens stretches of a run: it names a stretch or a field. -/
def isForExtents (rule : Rule) : Bool :=
  rule.extent?.isSome || rule.field?.isSome

def fitsTarget (rule : Rule) (component : Component) : Bool :=
  rule.target?.all (·.isPrefixOf component.target)

/-- Whether the rule is for an event: its field is a field of the event. -/
def fitsEvent (rule : Rule) (e : Event) : Bool :=
  rule.fitsTarget e.component && rule.field?.all fun field => e.fieldNames.contains field.name

/-- Whether the rule is for a stretch. -/
def fitsExtent (rule : Rule) (x : Extent) : Bool :=
  rule.fitsTarget x.component && rule.extent?.all (· == x.name) &&
    rule.field?.all fun field => (x.fields.map (·.1)).contains field.name

/-- Whether the stretch has the value that the rule asks for, if it asks for one. -/
def agrees (rule : Rule) (x : Extent) : Bool :=
  rule.field?.all fun field =>
    field.value?.all fun sample => (x.fields.lookup field.name).any sample.matchesNumber

/-- The length of the target, after no target at all. -/
def targetRank (rule : Rule) : Nat :=
  (rule.target?.map (Text.size · + 1)).getD 0

/-- The more specific rule comes first: the one with the longer target, or with a stretch, or with a
field. Of rules that are as specific the one with the greater names comes first. -/
def order (a b : Rule) : Ordering :=
  (compare b.targetRank a.targetRank).then <|
    (compare b.extent?.isSome a.extent?.isSome).then <|
      (compare b.field?.isSome a.field?.isSome).then <|
        (compare b.target? a.target?).then <|
          (compare b.extent? a.extent?).then <|
            match b.field?, a.field? with
            | some second, some first => second.order first
            | _, _ => .eq

/-- Put a rule into its place, instead of the rule that has that place. -/
def insert (rule : Rule) : List Rule → List Rule
  | [] => [rule]
  | other :: rest =>
    match rule.order other with
    | .lt => rule :: other :: rest
    | .eq => rule :: rest
    | .gt => other :: insert rule rest

/-- Rules in order, the most specific first. Of rules for the same place the last one is kept. -/
def arrange (rules : List Rule) : List Rule :=
  rules.foldl (fun arranged rule => insert rule arranged) []

/-- Why a text is no rule. -/
inductive Fault where
  | malformed
  /-- A part of the text would begin or end inside a character. -/
  | splitsCharacter
deriving DecidableEq

/-- What is asked for, or else a text that is malformed. -/
def require {α : Type} (found? : Option α) : Except Fault α :=
  match found? with
  | some found => .ok found
  | none => .error .malformed

/-- The characters at a span that splits no character. -/
def cut (whole : Text) (span : Span) : Except Fault Text :=
  if whole.hasBoundary span.start && whole.hasBoundary span.stop then .ok (whole.slice span)
  else .error .splitsCharacter

/-- Whether a character can begin a target. -/
def startsTarget (c : Char) : Bool :=
  isAlphanumeric c || c == '-' || c == ':' || c == '_'

/-- The threshold behind an equals sign. Nothing stands for everything. -/
def readThreshold? (t : Text) : Option Threshold :=
  if t.isEmpty then some (some .trace) else Threshold.ofText? t

/-- Read what is behind the bracket of a rule, if it has one: nothing, or an equals sign and a level.
Here and below `p` is the position of the text to read, without the blanks at the start of `whole`, and
parts are cut from `whole` itself at such positions. With blanks in front such a position can be inside a
character. -/
def readEnd (whole : Text) (rule : Rule) (p : Nat) : Text → Except Fault Rule
  | [] => .ok rule
  | '=' :: _ => do
    let written ← cut whole ⟨p + 1, whole.size⟩
    let threshold ← require (readThreshold? written)
    return { rule with threshold }
  | _ => .error .malformed

/-- Read what is behind an opening brace: a field, and both closing marks. -/
def readField (whole : Text) (rule : Rule) (p : Nat) (rest : Text) : Except Fault Rule := do
  let inner : Text := rest.takeWhile (· != '\x7d')
  let stop := p + inner.size
  match rest.drop inner.length with
  | '\x7d' :: tail =>
    let written ← cut whole ⟨p, stop⟩
    let field ← require (FieldTest.ofText? written)
    match tail with
    | ']' :: tail => readEnd whole { rule with field? := some field } (stop + 2) tail
    | _ => .error .malformed
  | _ => .error .malformed

/-- Read what is behind an opening bracket: the name of a stretch, which may be left out in front of a
brace. -/
def readBracket (whole : Text) (rule : Rule) (p : Nat) (rest : Text) : Except Fault Rule := do
  let inner : Text := rest.takeWhile fun c => c != ']' && c != '\x7b'
  let stop := p + inner.size
  match rest.drop inner.length with
  | ']' :: tail =>
    let name ← cut whole ⟨p, stop⟩
    readEnd whole { rule with extent? := some name } (stop + 1) tail
  | '\x7b' :: tail =>
    let name ← cut whole ⟨p, stop⟩
    readField whole { rule with extent? := if name.isEmpty then none else some name } (stop + 1) tail
  | _ => .error .malformed

/-- A rule that is a level or else a target. -/
def ofWord (t : Text) : Rule :=
  match Threshold.ofText? t with
  | some threshold => { threshold }
  | none => { target? := some t }

/-- Read the written form of a rule: a level alone, or a target, a bracket and a level behind an equals
sign, in this order and not all of them. -/
def read (whole : Text) : Except Fault Rule := do
  let body := Text.trim whole
  let head : Text := body.takeWhile fun c => c != '=' && c != '['
  match body with
  | [] => .error .malformed
  | '[' :: rest => readBracket whole {} 1 rest
  | c :: _ =>
    if !startsTarget c then .error .malformed
    else
      match body.drop head.length with
      | [] => return ofWord whole
      | mark :: rest =>
        let rule : Rule := { target? := some (← cut whole ⟨0, head.size⟩) }
        if mark = '[' then readBracket whole rule (head.size + 1) rest
        else readEnd whole rule head.size (mark :: rest)

/-- The bracket of a rule. -/
def bracket (rule : Rule) : Text :=
  if rule.isForExtents then
    let field := (rule.field?.map fun field => '\x7b' :: field.text ++ ['\x7d']).getD []
    '[' :: rule.extent?.getD [] ++ field ++ [']']
  else []

def text (rule : Rule) : Text :=
  let subject := rule.target?.getD [] ++ rule.bracket
  if rule.target?.isNone && !rule.isForExtents then Threshold.name rule.threshold
  else subject ++ '=' :: Threshold.name rule.threshold

end Rule

end ErDiagram.Log
