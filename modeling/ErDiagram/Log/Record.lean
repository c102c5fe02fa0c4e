import ErDiagram.Log.Filter
import ErDiagram.Text.Quoted

/-!
Log lines. An event inside a stretch of a run is written with the name and fields of the stretch, as
long as the filter lets the stretch through.
-/

namespace ErDiagram.Log

def Value.written : Value → Text
  | .text t => t.quoted
  | .number n => Text.ofNat n
  | .plain t => t

namespace Record

def field (name : Text) (value : Value) : Text :=
  name ++ '=' :: value.written

/-- The fields of an event, each behind a space. One without a value is left out. -/
def fields (e : Event) : Text :=
  e.fields.flatMap fun entry => (entry.2.map fun value => ' ' :: field entry.1 value).getD []

def level (l : Level) : Text :=
  Text.alignRight 5 (l.name.map Char.toUpper)

/-- The line of an event behind a time stamp and some context. -/
def line (stamp context : Text) (e : Event) : Text :=
  stamp ++ ' ' :: level e.level ++ ' ' :: context ++ e.message ++ fields e ++ ['\n']

/-- What stands in front of the events inside a stretch. -/
def context (filter : Filter) (x : Extent) : Text :=
  if filter.admitsExtent x then
    let fields := x.fields.map fun entry => field entry.1 (.number entry.2)
    x.name ++ '\x7b' :: [' '].intercalate fields ++ "\x7d: ".toList
  else []

/-- The line of an event outside of all stretches, if the filter lets it through. -/
def event (filter : Filter) (stamp : Text) (e : Event) : Text :=
  if filter.admits none e then line stamp [] e else []

/-- The lines of the events inside a stretch. -/
def extent (filter : Filter) (stamp : Text) (x : Extent) : Text :=
  (x.events.filter (filter.admits (filter.openTo x))).flatMap (line stamp (context filter x))

end Record

end ErDiagram.Log
