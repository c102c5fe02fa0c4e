import ErDiagram.Log.Rule

/-!
Which events are written. A filter is a list of rules. For a single event the most specific plain rule
that fits counts; inside a stretch of a run the rules for that stretch let through more.
-/

namespace ErDiagram.Log

/-- Rules in the order in which they were given. -/
abbrev Filter := List Rule

namespace Filter

/-- The filter that is used when no other is given or can be read. -/
def standard : Filter := [{ threshold := some .warn }]

/-- Read the written form of a filter: rules between commas. Without any rule only errors pass. -/
def read (t : Text) : Except Rule.Fault Filter := do
  match ← ((t.splitOn ',').filter (!·.isEmpty)).mapM Rule.read with
  | [] => return [{ threshold := some .error }]
  | rules => return rules

/-- The filter for a written form. A malformed one counts as the standard filter. There is none for a form
whose first fault is that a rule splits a character. -/
def ofText? (t : Text) : Option Filter :=
  match read t with
  | .ok filter => some filter
  | .error .malformed => some standard
  | .error .splitsCharacter => none

/-- The first of some written forms that is there, as a filter, and the standard filter if there is no
filter for it. -/
def choose (forms : List (Option Text)) : Filter :=
  ((forms.findSome? id).bind ofText?).getD standard

/-- The rules for single events. -/
def plainRules (filter : Filter) : List Rule :=
  Rule.arrange (filter.filter Rule.isPlain)

/-- The rules for stretches. -/
def extentRules (filter : Filter) : List Rule :=
  Rule.arrange (filter.filter Rule.isForExtents)

/-- Whether the most specific plain rule with some property lets a level through. -/
def admitsPlain (filter : Filter) (level : Level) (fits : Rule → Bool) : Bool :=
  (filter.plainRules.find? fits).any fun rule => rule.threshold.admits level

/-- The level beyond which nothing is looked at. The value of a field is only known once the stretch is
looked at, so a rule with a value takes the limit away. -/
def limit (filter : Filter) : Threshold :=
  if filter.any fun rule => rule.field?.any (·.value?.isSome) then some .trace
  else Threshold.most (filter.map Rule.threshold)

/-- The rules that are for a stretch. -/
def rulesFor (filter : Filter) (x : Extent) : List Rule :=
  filter.extentRules.filter (·.fitsExtent x)

/-- Whether a stretch is let through: it has a rule, or the plain rules let it through, which look at
nothing but its target. -/
def admitsExtent (filter : Filter) (x : Extent) : Bool :=
  filter.limit.admits x.level &&
    (!(filter.rulesFor x).isEmpty || filter.admitsPlain x.level (·.fitsTarget x.component))

/-- What the rules for a stretch let through inside it. -/
def openTo (filter : Filter) (x : Extent) : Threshold :=
  if filter.admitsExtent x then
    Threshold.most (((filter.rulesFor x).filter (·.agrees x)).map Rule.threshold)
  else none

/-- Whether an event is let through where a stretch lets through what is within `inside`. -/
def admits (filter : Filter) (inside : Threshold) (e : Event) : Bool :=
  inside.admits e.level || filter.admitsPlain e.level (·.fitsEvent e)

/-- The plain rules and then those for stretches. A rule that is both is written twice. -/
def text (filter : Filter) : Text :=
  [','].intercalate ((filter.plainRules ++ filter.extentRules).map Rule.text)

end Filter

end ErDiagram.Log
