import ErDiagram.Proofs.Repair.Run
import ErDiagram.Repair.Trace
import Mathlib.Algebra.Ring.Nat

/-!
Counting the events of a run. Every event comes from one step, from the state that the run ends in or
from its report, and only the decisions on a line are told as debug events. So what the report counts
can be read off the trace.
-/

namespace ErDiagram

namespace Log.Event

/-- Whether the event is a debug event with a message. -/
def isDebug (message : Text) (e : Event) : Bool :=
  e.level == .debug && e.message == message

end Log.Event

namespace Tally

theorem sum_eq (field : Tally → Nat) (hZero : field {} = 0)
    (hAdd : ∀ a b : Tally, field (a + b) = field a + field b) (tallies : List Tally) :
    field (sum tallies) = (tallies.map field).sum := by
  induction tallies with
  | nil => exact hZero
  | cons tally rest ih => rw [sum, hAdd, ih, List.map_cons, List.sum_cons]

end Tally

namespace Step

theorem exists_of_mem_unclosed? {step : Step} {notice : Notice}
    (h : notice ∈ step.unclosed?.toList) : ∃ sign entity, notice = .unclosed sign entity := by
  rw [Option.mem_toList, unclosed?] at h
  split at h
  next entity _ _ _ => exact ⟨.beforeRelationship, entity, (Option.some.inj h).symm⟩
  next entity _ _ _ => exact ⟨.beforeEntity, entity, (Option.some.inj h).symm⟩
  next => cases h

theorem readingNotice_cases (step : Step) :
    step.readingNotice = .directive ∨
      ∃ kind entity?, step.readingNotice = .classified kind entity? := by
  rw [readingNotice]
  split
  next => exact Or.inl rfl
  next => exact Or.inr ⟨step.reading.kind, step.after.entity?, rfl⟩

theorem countP_notices (p : Notice → Bool) (step : Step) :
    step.notices.countP p = step.unclosed?.toList.countP p +
      ([step.readingNotice].countP p + step.decisions.countP (p ∘ Notice.decided)) := by
  rw [notices, ← List.singleton_append, List.countP_append, List.countP_append, List.countP_map]

end Step

namespace Repair

/-- The events of a run, counted where they come from. -/
theorem countP_events (p : Log.Event → Bool) (g : Grammar) (t : Text) :
    (extent g t).events.countP p =
      ((repairRun g t).map fun step => step.notices.countP (p ∘ Notice.event)).sum +
        ((finalState g .outside (splitLines t)).entity?.map (Notice.unclosed .atEnd)).toList.countP
          (p ∘ Notice.event) +
        [Notice.completed (repairReport g t)].countP (p ∘ Notice.event) := by
  change ((trace g t).map Notice.event).countP p = _
  rw [List.countP_map, trace, notices, List.countP_append, List.countP_append, List.countP_flatMap]
  rfl

/-- No notice but a decision is told as a debug event. -/
theorem isDebug_event (message : Text) (notice : Notice) :
    notice.event.isDebug message =
      match notice with
      | .decided decision => (Notice.decisionEvent decision).isDebug message
      | _ => false := by
  cases notice with
  | directive => rfl
  | classified kind entity? => rfl
  | unclosed sign entity => rfl
  | decided decision => rfl
  | completed report => rfl

theorem countP_isDebug (message : Text) (g : Grammar) (t : Text) :
    (extent g t).events.countP (Log.Event.isDebug message) =
      ((repairRun g t).map fun step =>
        step.decisions.countP fun d => (Notice.decisionEvent d).isDebug message).sum := by
  have hNone {notices : List Notice}
      (h : ∀ notice ∈ notices, notice.event.isDebug message = false) :
      notices.countP (Log.Event.isDebug message ∘ Notice.event) = 0 := by
    rw [List.countP_eq_zero]
    intro notice hNotice
    rw [Function.comp_apply, h notice hNotice]
    exact Bool.false_ne_true
  have hStep (step : Step) :
      step.notices.countP (Log.Event.isDebug message ∘ Notice.event) =
        step.decisions.countP fun d => (Notice.decisionEvent d).isDebug message := by
    rw [Step.countP_notices, hNone, hNone, Nat.zero_add, Nat.zero_add]
    · rfl
    · intro notice hNotice
      obtain rfl := List.mem_singleton.mp hNotice
      rcases step.readingNotice_cases with hReading | ⟨kind, entity?, hReading⟩
      · rw [hReading, isDebug_event]
      · rw [hReading, isDebug_event]
    · intro notice hNotice
      obtain ⟨sign, entity, rfl⟩ := Step.exists_of_mem_unclosed? hNotice
      rw [isDebug_event]
  rw [countP_events, hNone, hNone]
  · exact congrArg List.sum (List.map_congr_left fun step _ => hStep step)
  · intro notice hNotice
    obtain rfl := List.mem_singleton.mp hNotice
    rfl
  · intro notice hNotice
    rw [Option.mem_toList, Option.map_eq_some_iff] at hNotice
    obtain ⟨entity, -, rfl⟩ := hNotice
    rfl

/-- A counter of the report is the number of debug events with its message, if every decision that it
counts is told with that message and no other decision is. -/
theorem countP_isDebug_eq (message : Text) (field : Tally → Nat) (hZero : field {} = 0)
    (hAdd : ∀ a b : Tally, field (a + b) = field a + field b)
    (hEvent : ∀ d : Decision,
      field d.tally = if (Notice.decisionEvent d).isDebug message then 1 else 0)
    (g : Grammar) (t : Text) :
    (extent g t).events.countP (Log.Event.isDebug message) = field (repairReport g t).tally := by
  have hStep (step : Step) : field step.tally =
      step.decisions.countP fun d => (Notice.decisionEvent d).isDebug message := by
    rw [Step.tally, Tally.sum_eq field hZero hAdd, List.map_map]
    induction step.decisions with
    | nil => rfl
    | cons d rest ih =>
        rw [List.map_cons, List.sum_cons, ih, List.countP_cons, Function.comp_apply, hEvent,
          Nat.add_comm]
  rw [countP_isDebug, repairReport, report, Tally.sum_eq field hZero hAdd, List.map_map]
  exact congrArg List.sum (List.map_congr_left fun step _ => (hStep step).symm)

end Repair

end ErDiagram
