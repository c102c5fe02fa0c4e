import ErDiagram.Proofs.Command.Session

/-!
What a run changes. The surroundings may refuse every single operation, and one that is refused has no
effect. A plan that never writes leaves the files alone. A repair writes at most once, to its output and
only when all is computed, so a file can be its own output.
-/

namespace ErDiagram.Command

/-- A standard input, and what the surroundings refuse to read or to write whatever the files are. -/
structure Surroundings where
  stdin : ByteArray := .empty
  readError? : Channel → Option ReadError := fun _ => none
  writeError? : Text → Option FileError := fun _ => none

namespace Surroundings

def read (s : Surroundings) (files : Files) (channel : Channel) : Except ReadError Text :=
  match s.readError? channel with
  | some e => .error e
  | none => Plan.input s.stdin files channel

def write (s : Surroundings) (files : Files) (path content : Text) : Except FileError Files :=
  match s.writeError? path with
  | some e => .error e
  | none => files.write path content.toUtf8

/-- Carry out a plan. -/
def run (s : Surroundings) : Files → Plan → Outcome × Files
  | files, .finish outcome => (outcome, files)
  | files, .read channel next => run s files (next (s.read files channel))
  | files, .write path content next =>
    match s.write files path content with
    | .ok changed => run s changed (next (.ok ()))
    | .error e => run s files (next (.error e))

end Surroundings

/-- A plan that asks for no writing. -/
inductive Plan.ReadsOnly : Plan → Prop where
  | finish (outcome : Outcome) : ReadsOnly (.finish outcome)
  | read (channel : Channel) {next : Except ReadError Text → Plan}
      (hNext : ∀ input, ReadsOnly (next input)) : ReadsOnly (.read channel next)

/-- What a repair does to its output, and that it does nothing else. -/
def DeliversRepair (s : Surroundings) (files : Files) (input output : Channel)
    (keyModifiers : List Text) (result : Outcome × Files) : Prop :=
  match grammarWith keyModifiers, s.read files input with
  | .ok g, .ok text =>
    match output with
    | .standard =>
      result.2 = files ∧ result.1.stdout = normalize g text ∧ result.1.status = 0
    | .file path =>
      result.1.stdout = [] ∧
        match s.write files path (normalize g text) with
        | .ok changed =>
          result.2 = changed ∧ files.Rewritten changed path (normalize g text).toUtf8 ∧
            result.1.status = 0
        | .error _ => result.2 = files ∧ result.1.status = 1
  | _, _ => result.2 = files ∧ result.1.stdout = [] ∧ result.1.status = 1

variable {s : Surroundings} {files changed : Files} {path : Text} {start : Outcome}

namespace Surroundings

/-- Where nothing is refused, a plan is carried out as over the files alone. -/
theorem run_eq (stdin : ByteArray) (files : Files) (plan : Plan) :
    Plan.run stdin files plan = run { stdin } files plan := by
  induction plan generalizing files with
  | finish => rfl
  | read channel next ih => exact ih _ files
  | write path content next ih =>
      rw [Plan.run, run, write]
      cases files.write path content.toUtf8 with
      | error e => exact ih _ files
      | ok changed => exact ih _ changed

theorem run_of_readsOnly {plan : Plan} (h : plan.ReadsOnly) : (s.run files plan).2 = files := by
  induction h with
  | finish => rfl
  | read channel hNext ih => exact ih (s.read files channel)

theorem run_withInput (channel : Channel) (next : Text → Plan) :
    s.run files (withInput start channel next) =
      match s.read files channel with
      | .error e => (start.fail (.input channel e), files)
      | .ok text => s.run files (next text) := by
  rw [withInput, run]
  cases s.read files channel with
  | error e => rfl
  | ok text => rfl

theorem rewritten_of_write {content : Text} (h : s.write files path content = .ok changed) :
    files.Rewritten changed path content.toUtf8 := by
  unfold write at h
  split at h
  next => cases h
  next => exact Files.rewritten_of_write h

/-- The surroundings can refuse what a file holds, but they do not change it. -/
theorem exists_of_read {text : Text} (h : s.read files (.file path) = .ok text) :
    ∃ content, files.read path = .ok content ∧ decodeText content = .ok text := by
  unfold read at h
  split at h
  next => cases h
  next =>
    rw [Plan.input] at h
    cases hContent : files.read path with
    | error e =>
        rw [hContent] at h
        cases h
    | ok content =>
        rw [hContent] at h
        exact ⟨content, rfl, h⟩

end Surroundings

theorem readsOnly_withInput (channel : Channel) {next : Text → Plan}
    (hNext : ∀ text, (next text).ReadsOnly) : (withInput start channel next).ReadsOnly := by
  refine .read channel fun input => ?_
  cases input with
  | error e => exact .finish _
  | ok text => exact hNext text

theorem readsOnly_checkPlan (env : Environment) (logger : Logger) (verbose : Bool)
    (input : Channel) (json : Bool) (color : ColorChoice) (keyModifiers : List Text) :
    (checkPlan env logger start verbose input json color keyModifiers).ReadsOnly := by
  rw [checkPlan]
  cases grammarWith keyModifiers with
  | error e => exact .finish _
  | ok g => exact readsOnly_withInput input fun _ => .finish _

theorem readsOnly_detectPlan (verbose : Bool) (input : Channel) :
    (detectPlan start verbose input).ReadsOnly :=
  readsOnly_withInput input fun _ => .finish _

theorem deliversRepair_normalizePlan (hStatus : start.status = 0) (hStdout : start.stdout = [])
    (logger : Logger) (verbose : Bool) (input output : Channel) (keyModifiers : List Text) :
    DeliversRepair s files input output keyModifiers
      (s.run files (normalizePlan logger start verbose input output keyModifiers)) := by
  rw [normalizePlan, DeliversRepair]
  cases grammarWith keyModifiers with
  | error e => simp [Surroundings.run, hStdout]
  | ok g =>
      simp only [Surroundings.run_withInput]
      cases s.read files input with
      | error e => simp [hStdout]
      | ok text =>
          cases output with
          | standard => simp [deliver, Surroundings.run, hStatus, hStdout]
          | file path =>
              simp only [deliver, Surroundings.run]
              cases hWrite : s.write files path (normalize g text) with
              | error e => simp [hStdout]
              | ok changed =>
                  have hRewritten := Surroundings.rewritten_of_write hWrite
                  simp [hStatus, hStdout, hRewritten]

section

variable {keyModifiers : List Text} {g : Grammar} {text : Text} {result : Outcome × Files}
  (hGrammar : grammarWith keyModifiers = .ok g)
  (h : DeliversRepair s files (.file path) (.file path) keyModifiers result)
include hGrammar h

/-- A file that is repaired onto itself can be written, for it could be read. -/
theorem DeliversRepair.rewritten (hRead : s.read files (.file path) = .ok text)
    (hWrite : s.writeError? path = none) :
    result.1.status = 0 ∧ files.Rewritten result.2 path (normalize g text).toUtf8 ∧
      result.2.read path = .ok (normalize g text).toUtf8 := by
  obtain ⟨content, hContent, -⟩ := Surroundings.exists_of_read hRead
  obtain ⟨names, hPath, -⟩ := Files.destination_of_read hContent
  have hOk := Files.write_eq_ok hPath (normalize g text).toUtf8
  have hChanged : s.write files path (normalize g text) =
      .ok (files.replace names (normalize g text).toUtf8) := by
    rw [Surroundings.write, hWrite]
    exact hOk
  simp only [DeliversRepair, hGrammar, hRead, hChanged] at h
  obtain ⟨-, hFiles, hRewritten, hStatus⟩ := h
  rw [hFiles]
  exact ⟨hStatus, hRewritten, Files.read_of_write hContent hOk⟩

/-- A file with nothing to repair is written as it is, or not at all. -/
theorem DeliversRepair.files_eq (hRead : files.read path = .ok text.toUtf8)
    (hText : normalize g text = text) : result.2 = files := by
  cases hInput : s.read files (.file path) with
  | error e =>
      simp only [DeliversRepair, hGrammar, hInput] at h
      exact h.1
  | ok found =>
      obtain ⟨content, hContent, hFound⟩ := Surroundings.exists_of_read hInput
      obtain rfl : text.toUtf8 = content := Except.ok.inj (hRead.symm.trans hContent)
      rw [decodeText, Text.ofUtf8?_toUtf8] at hFound
      obtain rfl : text = found := Except.ok.inj hFound
      simp only [DeliversRepair, hGrammar, hInput, hText] at h
      cases hWrite : s.write files path text with
      | error e =>
          rw [hWrite] at h
          exact h.2.1
      | ok changed =>
          rw [hWrite] at h
          rw [h.2.1]
          unfold Surroundings.write at hWrite
          split at hWrite
          next => cases hWrite
          next => exact (Except.ok.inj ((Files.write_of_read hRead).symm.trans hWrite)).symm

end

/-- A check and a detection change no file. A repair of what it accepts and can read delivers the
repaired text to its output, and it changes nothing else; of anything else, it changes nothing. A file
that is repaired onto itself is rewritten once, and the next repair with those key modifiers leaves
it as it is, whatever the surroundings are then. -/
theorem run_confined (s : Surroundings) (files : Files) (env : Environment) (stamp : Text)
    (inv : Invocation) :
    let run (action : Action) := s.run files ({ inv with action }.plan env stamp)
    (∀ input? json color keyModifiers,
      (run (.check input? json color keyModifiers)).2 = files) ∧
    (∀ input?, (run (.detect input?)).2 = files) ∧
    (∀ input? output? keyModifiers,
      DeliversRepair s files (.ofPath? input?) (.ofPath? output?) keyModifiers
        (run (.normalize input? output? keyModifiers))) ∧
    ∀ path keyModifiers g text, path ≠ ['-'] → grammarWith keyModifiers = .ok g →
      s.read files (.file path) = .ok text → s.writeError? path = none →
      let action := .normalize (some path) (some path) keyModifiers
      let once := run action
      once.1.status = 0 ∧ files.Rewritten once.2 path (normalize g text).toUtf8 ∧
        once.2.read path = .ok (normalize g text).toUtf8 ∧
        ∀ (s : Surroundings) (env : Environment) (stamp : Text) (inv : Invocation),
          (s.run once.2 ({ inv with action }.plan env stamp)).2 = once.2 := by
  intro run
  have hRepair (s : Surroundings) (files : Files) (env : Environment) (stamp : Text)
      (inv : Invocation) (input? output? : Option Text) (keyModifiers : List Text) :
      DeliversRepair s files (.ofPath? input?) (.ofPath? output?) keyModifiers
        (s.run files
          ({ inv with action := .normalize input? output? keyModifiers }.plan env stamp)) :=
    deliversRepair_normalizePlan rfl rfl _ inv.verbose _ _ keyModifiers
  refine ⟨?_, ?_, hRepair s files env stamp inv, ?_⟩
  · intro input? json color keyModifiers
    exact Surroundings.run_of_readsOnly (readsOnly_checkPlan _ _ _ _ _ _ _)
  · intro input?
    exact Surroundings.run_of_readsOnly (readsOnly_detectPlan _ _)
  · intro path keyModifiers g text hPath hGrammar hRead hWrite action once
    have hChannel : Channel.ofPath? (some path) = .file path := if_neg hPath
    have hOnce := hRepair s files env stamp inv (some path) (some path) keyModifiers
    rw [hChannel] at hOnce
    obtain ⟨hStatus, hRewritten, hAfter⟩ := hOnce.rewritten hGrammar hRead hWrite
    refine ⟨hStatus, hRewritten, hAfter, ?_⟩
    intro s env stamp inv
    have hTwice := hRepair s once.2 env stamp inv (some path) (some path) keyModifiers
    rw [hChannel] at hTwice
    have hExtends : g.ExtendsMermaid := Or.inr ⟨keyModifiers, hGrammar⟩
    exact hTwice.files_eq hGrammar hAfter
      (normalize_eq_self_of_clean (Repair.clean_normalize hExtends.isMermaid text)).1

/-- A file between two others is repaired onto itself, and then again. -/
theorem run_confined_itself :
    let path := "d.mmd".toList
    let text : Text := "a-b \x7b\n int c d NN\n".toList
    let repaired : Text := "a_b \x7b\n int cd NN\n".toList
    let files : Files :=
      { entries := [(["a".toList], .empty), ([path], text.toUtf8), (["b".toList], .empty)] }
    let inv : Invocation := ⟨false, none, none, .normalize (some path) (some path) ["NN".toList]⟩
    let run (files : Files) := Plan.run .empty files (inv.plan {} [])
    let once := (run files).2
    path ≠ ['-'] ∧ grammarWith ["NN".toList] = .ok Grammar.withNotNull ∧
      Surroundings.read {} files (.file path) = .ok text ∧ (run files).1.status = 0 ∧
      files.Rewritten once path repaired.toUtf8 ∧ once.read path = .ok repaired.toUtf8 ∧
      (run once).2 = once := by
  intro path text repaired files inv run once
  have hPath : path ≠ ['-'] := by decide
  have hGrammar : grammarWith ["NN".toList] = .ok Grammar.withNotNull := rfl
  have hContent : files.read path = .ok text.toUtf8 := rfl
  have hRead : Surroundings.read {} files (.file path) = .ok text := by
    rw [Surroundings.read, Plan.input, hContent]
    simp only [decodeText, Text.ofUtf8?_toUtf8]
  have hText : normalize Grammar.withNotNull text = repaired := by decide +kernel
  have hRun (files : Files) : run files = Surroundings.run {} files (inv.plan {} []) :=
    Surroundings.run_eq .empty files (inv.plan {} [])
  obtain ⟨-, -, -, hItself⟩ := run_confined {} files {} [] inv
  obtain ⟨hStatus, hRewritten, hOnce, hTwice⟩ := hItself path _ _ text hPath hGrammar hRead rfl
  rw [hText] at hRewritten hOnce
  have hSame : (Surroundings.run {} files (inv.plan {} [])).2 = once := by
    rw [← hRun]
  refine ⟨hPath, hGrammar, hRead, ?_, ?_, ?_, ?_⟩
  · rw [hRun]
    exact hStatus
  · exact hSame ▸ hRewritten
  · exact hSame ▸ hOnce
  · rw [hRun, ← hSame]
    exact hTwice {} {} [] inv

end ErDiagram.Command
