import ErDiagram.Command.Session
import ErDiagram.Proofs.Command.Files
import ErDiagram.Proofs.Repair.Account

/-!
Runs of the program over a model of its surroundings. A check and a repair fail on the same inputs and
key modifiers. Where neither does, the check ends well exactly if the repair would leave the text that
it has read; whether that text can be written somewhere is the surroundings' affair.
-/

namespace ErDiagram

theorem Text.toUtf8_injective {a b : Text} (h : a.toUtf8 = b.toUtf8) : a = b := by
  have hBoth := congrArg Text.ofUtf8? h
  rwa [Text.ofUtf8?_toUtf8, Text.ofUtf8?_toUtf8, Option.some.injEq] at hBoth

namespace Command

namespace Outcome

@[simp] theorem status_print (o : Outcome) (text : Text) : (o.print text).status = o.status := rfl

@[simp] theorem stdout_print (o : Outcome) (text : Text) :
    (o.print text).stdout = o.stdout ++ text := rfl

@[simp] theorem status_warn (o : Outcome) (text : Text) : (o.warn text).status = o.status := rfl

@[simp] theorem stdout_warn (o : Outcome) (text : Text) : (o.warn text).stdout = o.stdout := rfl

@[simp] theorem status_fail (o : Outcome) (f : Failure) : (o.fail f).status = 1 := rfl

@[simp] theorem stdout_fail (o : Outcome) (f : Failure) : (o.fail f).stdout = o.stdout := rfl

/-- A run that fails unless a condition holds ends well exactly if it holds. -/
theorem status_unless {o : Outcome} (h : o.status = 0) (clean : Bool) (f : Failure) :
    (if clean then o else o.fail f).status = 0 ↔ clean = true := by
  cases clean with
  | true => exact iff_of_true h rfl
  | false => exact iff_of_false (by simp) Bool.false_ne_true

end Outcome

/-- Whether a channel can be written to. -/
def Channel.Writable (files : Files) : Channel → Prop
  | .standard => True
  | .file path => ∃ names, files.destination path = .ok names

/-- Whether a run ended well and left at one channel the text that the other one holds at its start. -/
def LeavesInput (stdin : ByteArray) (files : Files) (input output : Channel)
    (run : Outcome × Files) : Prop :=
  run.1.status = 0 ∧ ∃ text, Plan.input stdin files input = .ok text ∧
    match output with
    | .standard => run.1.stdout = text
    | .file path =>
      ∃ names, files.destination path = .ok names ∧ run.2.find? names = some text.toUtf8

/-- Key modifiers and an input that a repair accepts, and that it has nothing to repair on. -/
def Unchanged (stdin : ByteArray) (files : Files) (input : Channel) (keyModifiers : List Text) :
    Prop :=
  ∃ g text, grammarWith keyModifiers = .ok g ∧ Plan.input stdin files input = .ok text ∧
    normalize g text = text

section

variable (stdin : ByteArray) (files : Files)

namespace Plan

theorem run_withInput (start : Outcome) (channel : Channel) (next : Text → Plan) :
    run stdin files (withInput start channel next) =
      match input stdin files channel with
      | .error e => (start.fail (.input channel e), files)
      | .ok text => run stdin files (next text) := by
  rw [withInput, run]
  cases input stdin files channel with
  | error e => rfl
  | ok text => rfl

end Plan

/-- A check ends well exactly on what a repair has nothing to repair on. -/
theorem status_check_eq_zero_iff (env : Environment) (logger : Logger) (start : Outcome)
    (hStart : start.status = 0) (verbose : Bool) (input : Channel) (json : Bool)
    (color : ColorChoice) (keyModifiers : List Text) :
    (Plan.run stdin files
        (checkPlan env logger start verbose input json color keyModifiers)).1.status = 0 ↔
      Unchanged stdin files input keyModifiers := by
  rw [checkPlan, Unchanged]
  cases grammarWith keyModifiers with
  | error e => simp [Plan.run]
  | ok g =>
      simp only [Plan.run_withInput]
      cases Plan.input stdin files input with
      | error e => simp
      | ok text =>
          have hClean := (truthful_repairReport g text).clean_iff_normalize
          simp only [Plan.run, Except.ok.injEq, exists_eq_left', exists_and_left]
          rw [Outcome.status_unless (by simpa using hStart), hClean]

/-- A repair leaves its input exactly where there is nothing to repair and the output can be
written. -/
theorem leavesInput_normalize_iff (logger : Logger) (start : Outcome) (hStart : start.status = 0)
    (hStdout : start.stdout = []) (verbose : Bool) (input output : Channel)
    (keyModifiers : List Text) :
    LeavesInput stdin files input output
        (Plan.run stdin files (normalizePlan logger start verbose input output keyModifiers)) ↔
      Unchanged stdin files input keyModifiers ∧ output.Writable files := by
  rw [normalizePlan, Unchanged, LeavesInput]
  cases grammarWith keyModifiers with
  | error e => simp [Plan.run]
  | ok g =>
      simp only [Plan.run_withInput]
      cases Plan.input stdin files input with
      | error e => simp
      | ok text =>
          cases output with
          | standard => simp [deliver, Plan.run, hStart, hStdout, Channel.Writable]
          | file path =>
              cases hPath : files.destination path with
              | error e =>
                  simp [deliver, Plan.run, Files.write_eq_error hPath, Channel.Writable, hPath]
              | ok names =>
                  have hWrite := Files.write_eq_ok hPath (normalize g text).toUtf8
                  have hFind := files.find?_replace names (normalize g text).toUtf8
                  have hSame : (normalize g text).toUtf8 = text.toUtf8 ↔ normalize g text = text :=
                    ⟨Text.toUtf8_injective, congrArg Text.toUtf8⟩
                  simp [deliver, Plan.run, hWrite, hFind, hStart, Channel.Writable, hPath, hSame]

end

/-- The report of a run is true of it under any grammar. So, whatever the key modifiers and the input
are, a check ends well exactly if a repair, where it can write, leaves what it has read. -/
theorem repairReport_truthful :
    (∀ g t, Report.Truthful g t) ∧
      ∀ (env : Environment) (stamp : Text) (inv : Invocation) (input? output? : Option Text)
        (json : Bool) (color : ColorChoice) (keyModifiers : List Text) (stdin : ByteArray)
        (files : Files),
        let run (action : Action) := Plan.run stdin files ({ inv with action }.plan env stamp)
        LeavesInput stdin files (.ofPath? input?) (.ofPath? output?)
            (run (.normalize input? output? keyModifiers)) ↔
          (run (.check input? json color keyModifiers)).1.status = 0 ∧
            (Channel.ofPath? output?).Writable files := by
  refine ⟨truthful_repairReport, ?_⟩
  intro env stamp inv input? output? json color keyModifiers stdin files run
  let start : Outcome :=
    { stderr := (startLog env stamp inv).2 ++
        verboseLine inv.verbose (programName ++ " v".toList ++ version) }
  have hLeaves := leavesInput_normalize_iff stdin files (startLog env stamp inv).1 start rfl rfl
    inv.verbose (.ofPath? input?) (.ofPath? output?) keyModifiers
  have hStatus := status_check_eq_zero_iff stdin files env (startLog env stamp inv).1 start rfl
    inv.verbose (.ofPath? input?) json color keyModifiers
  exact hLeaves.trans (and_congr_left' hStatus.symm)

end Command

end ErDiagram
