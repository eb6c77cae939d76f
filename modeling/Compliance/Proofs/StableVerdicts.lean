import Compliance.Proofs.ExitStatus
import Compliance.Proofs.RunAccounts
import Compliance.Proofs.Sessions
import Mathlib.Data.List.Flatten

/-!
Verdicts do not depend on what is told besides them. A run of a command line is one
session; how much of it is told decides only which of its events stand between the
lines on the standard error.
-/

namespace Compliance

theorem Log.lines_append (verbosity : Nat) (events more : List Log.Event) :
    lines verbosity (events ++ more) = lines verbosity events ++ lines verbosity more := by
  unfold lines
  cases Level.ofVerbosity verbosity <;> simp

@[simp] theorem Log.lines_nil (verbosity : Nat) : lines verbosity [] = [] := by
  unfold lines
  cases Level.ofVerbosity verbosity <;> rfl

namespace Write

def outLines : Write → List String
  | .out line => [line]
  | _ => []

/-- The lines of a write on the standard error. -/
def errLines (verbosity : Nat) : Write → List String
  | .told event => Log.lines verbosity [event]
  | .out _ => []
  | .err line => [line]

/-- More is told by whole lines only. -/
theorem errLines_zero_sublist (verbosity : Nat) (write : Write) :
    (write.errLines 0).Sublist (write.errLines verbosity) := by
  cases write with
  | told event => exact List.nil_sublist _
  | out line => exact List.Sublist.refl _
  | err line => exact List.Sublist.refl _

theorem flatMap_outLines_told (events : List Log.Event) :
    (events.map Write.told).flatMap outLines = [] := by
  simp [outLines]

theorem flatMap_errLines_told (verbosity : Nat) (events : List Log.Event) :
    (events.map Write.told).flatMap (errLines verbosity) = Log.lines verbosity events := by
  induction events with
  | nil => exact (Log.lines_nil verbosity).symm
  | cons event rest ih =>
    rw [List.map_cons, List.flatMap_cons, ih, errLines, ← Log.lines_append]
    rfl

end Write

/-- What is seen when lines are told in front. -/
def Emission.behind (emission : Emission) (lines : List String) : Emission :=
  { emission with stderr := Output.unlines lines ++ emission.stderr }

theorem Emission.behind_nil (emission : Emission) : emission.behind [] = emission := by
  simp [behind, Output.unlines]

theorem Emission.behind_behind (emission : Emission) (lines more : List String) :
    (emission.behind more).behind lines = emission.behind (lines ++ more) := by
  simp [behind, Output.unlines_append, String.append_assoc]

namespace Session

variable {α β : Type}

/-- The lines that a session leaves on the standard output. -/
def stdout (session : Session α) : List String := session.writes.flatMap Write.outLines

/-- The lines that a session leaves on the standard error. -/
def stderr (verbosity : Nat) (session : Session α) : List String :=
  session.writes.flatMap (Write.errLines verbosity)

/-- What is seen of a session that ends with an exit code. -/
def emission (verbosity : Nat) (session : Session Nat) : Emission where
  code := session.result
  stdout := Output.unlines session.stdout
  stderr := Output.unlines (session.stderr verbosity)

def print (lines : List String) : Session Unit := ⟨lines.map .out, ()⟩

def complain (lines : List String) : Session Unit := ⟨lines.map .err, ()⟩

@[simp] theorem result_bind (first : Session α) (next : α → Session β) :
    (first >>= next).result = (next first.result).result := rfl

@[simp] theorem stdout_bind (first : Session α) (next : α → Session β) :
    (first >>= next).stdout = first.stdout ++ (next first.result).stdout :=
  List.flatMap_append

@[simp] theorem stderr_bind (verbosity : Nat) (first : Session α) (next : α → Session β) :
    (first >>= next).stderr verbosity =
      first.stderr verbosity ++ (next first.result).stderr verbosity :=
  List.flatMap_append

@[simp] theorem result_telling (events : List Log.Event) (result : α) :
    (telling events result).result = result := rfl

@[simp] theorem stdout_telling (events : List Log.Event) (result : α) :
    (telling events result).stdout = [] := Write.flatMap_outLines_told events

@[simp] theorem stderr_telling (verbosity : Nat) (events : List Log.Event) (result : α) :
    (telling events result).stderr verbosity = Log.lines verbosity events :=
  Write.flatMap_errLines_told verbosity events

@[simp] theorem stdout_print (lines : List String) : (print lines).stdout = lines := by
  simp [stdout, print, List.flatMap_map, Write.outLines]

@[simp] theorem stderr_print (verbosity : Nat) (lines : List String) :
    (print lines).stderr verbosity = [] := by
  simp [stderr, print, List.flatMap_map, Write.errLines]

@[simp] theorem stdout_complain (lines : List String) : (complain lines).stdout = [] := by
  simp [stdout, complain, List.flatMap_map, Write.outLines]

@[simp] theorem stderr_complain (verbosity : Nat) (lines : List String) :
    (complain lines).stderr verbosity = lines := by
  simp [stderr, complain, List.flatMap_map, Write.errLines]

theorem emission_after (verbosity : Nat) (events : List Log.Event) (session : Session Nat) :
    (after events session).emission verbosity =
      (session.emission verbosity).behind (Log.lines verbosity events) := by
  simp [emission, after, Emission.behind, stdout, stderr, Output.unlines_append,
    Write.flatMap_outLines_told, Write.flatMap_errLines_told]

/-- What a session leaves on the standard error when nothing is told is left in
place when something is. -/
theorem stderr_zero_sublist (verbosity : Nat) (session : Session α) :
    (session.stderr 0).Sublist (session.stderr verbosity) := by
  exact List.Sublist.flatMap_right session.writes fun write _ =>
    write.errLines_zero_sublist verbosity

end Session

namespace Output

def emitSession (gate : String) (result : Except GateError Report) (format : Format) :
    Session Nat :=
  match result, format with
  | .ok report, .text => do
    Session.print report.renderText.stdout
    Session.complain report.renderText.stderr
    return report.exitCode
  | .ok report, .json => do
    Session.print [report.json.text]
    return report.exitCode
  | .error failure, .text => do
    Session.complain [failure.message]
    return 1
  | .error failure, .json => do
    Session.print [(errorJson gate failure).text]
    return 1

theorem emission_emitSession (verbosity : Nat) (gate : String)
    (result : Except GateError Report) (format : Format) :
    (emitSession gate result format).emission verbosity = emit gate result format := by
  cases result <;> cases format <;>
    simp [emitSession, emit, reportText, Session.emission, unlines]

theorem result_emitSession (gate : String) (result : Except GateError Report)
    (format : Format) :
    (emitSession gate result format).result = (emit gate result format).code :=
  congrArg Emission.code (emission_emitSession 0 gate result format)

theorem stdout_emitSession (gate : String) (result : Except GateError Report)
    (format : Format) :
    unlines (emitSession gate result format).stdout = (emit gate result format).stdout :=
  congrArg Emission.stdout (emission_emitSession 0 gate result format)

theorem stderr_emitSession (verbosity : Nat) (gate : String)
    (result : Except GateError Report) (format : Format) :
    unlines ((emitSession gate result format).stderr verbosity) =
      (emit gate result format).stderr :=
  congrArg Emission.stderr (emission_emitSession verbosity gate result format)

/-- The lines of a text. What stands behind the last line feed is a line unless it is
empty. -/
def linesOf (text : String) : List String :=
  let parts := (Text.split '\n' text.toList).map String.ofList
  if parts.getLast? = some "" then parts.dropLast else parts

theorem split_unlines (lines : List String) :
    Text.split '\n' (unlines lines).toList =
      lines.flatMap (fun line => Text.split '\n' line.toList) ++ [[]] := by
  induction lines with
  | nil => rfl
  | cons line rest ih =>
    have hcons : (unlines (line :: rest)).toList =
        line.toList ++ '\n' :: (unlines rest).toList := by
      simp [unlines]
    rw [hcons, List.flatMap_cons, List.append_assoc, ← ih]
    simp only [Text.split_eq_splitOn]
    exact List.splitOn_append_cons_self _ _

/-- Lines that were written are read back one after the other, a line with line
feeds in it as several. -/
theorem linesOf_unlines (lines : List String) :
    linesOf (unlines lines) =
      lines.flatMap fun line => (Text.split '\n' line.toList).map String.ofList := by
  simp [linesOf, split_unlines, List.map_flatMap]

example : linesOf (unlines ["a\nb", "", "c"]) = ["a", "b", "", "c"] := by decide

end Output

namespace Command

/-- The lines of a run gate after gate, with the counts so far. -/
def tallySession (format : Format) (tally : Tally) :
    List (Gate × Outcome) → Session Tally
  | [] => return tally
  | (gate, .skipped) :: rest => do
    Session.print [skippedLine gate format]
    tallySession format { tally with skipped := tally.skipped + 1 } rest
  | (gate, .ran result) :: rest => do
    let code ← Output.emitSession gate.name result format
    let next :=
      if code = 0 then { tally with passed := tally.passed + 1 }
      else { tally with failures := tally.failures ++ [gate.name] }
    tallySession format next rest

def allSession (source : Source) (config : Config) (format : Format) : Session Nat := do
  let outcomes ← Pipeline.session source config
  let tally ← tallySession format {} outcomes
  Session.print (tally.lines format)
  return if tally.failed = 0 then 0 else 1

def gateSession (source : Source) (config : Config) (format : Format) (gate : Gate) :
    Session Nat := do
  let result ← gate.session source config
  Output.emitSession gate.name result format

def performSession (source : Source) (config : Config) (format : Format) :
    Task → Session Nat
  | .list => do
    Session.print (config.gates.map (listLine config))
    return 0
  | .all => allSession source config format
  | .gate (.evidence family) =>
    match config.family family with
    | .error failure => do
      Session.complain [errorLine none failure]
      return 1
    | .ok _ => gateSession source config format (.evidence family)
  | .gate gate => gateSession source config format gate

/-- The run of a command line as it happens. Its verbosity is not looked at. -/
def session (surroundings : Surroundings) (line : Line) : Session Nat :=
  match selectConfig surroundings.files line.config with
  | .error message => do
    Session.complain [message]
    return 1
  | .ok config => do
    let root := line.root.getD surroundings.directory
    Session.tell (.resolvedRoot root)
    performSession (Workspace.mk root surroundings.files).source config line.format line.task

/-- A gate of a run is counted by its exit code. -/
theorem add_ran (tally : Tally) (gate : Gate) (result : Except GateError Report)
    (format : Format) :
    tally.add gate (.ran result) =
      if (Output.emit gate.name result format).code = 0 then
        { tally with passed := tally.passed + 1 }
      else { tally with failures := tally.failures ++ [gate.name] } := by
  have hpassed : (Outcome.ran result).passed = true ↔
      (Output.emit gate.name result format).code = 0 := by
    rw [Pipeline.passed_ran_iff, Output.code_emit_eq_zero_iff]
  simp [Tally.add, Outcome.isSkipped, hpassed]

theorem result_tallySession (format : Format) (tally : Tally)
    (outcomes : List (Gate × Outcome)) :
    (tallySession format tally outcomes).result =
      outcomes.foldl (fun tally (gate, outcome) => tally.add gate outcome) tally := by
  induction outcomes generalizing tally with
  | nil => rfl
  | cons ran rest ih =>
    obtain ⟨gate, outcome⟩ := ran
    cases outcome with
    | skipped =>
      simp only [tallySession, Session.result_bind, ih]
      rfl
    | ran result =>
      simp only [tallySession, Session.result_bind, ih, Output.result_emitSession,
        List.foldl_cons, add_ran tally gate result format]

theorem stdout_tallySession (format : Format) (tally : Tally)
    (outcomes : List (Gate × Outcome)) :
    Output.unlines (tallySession format tally outcomes).stdout =
      String.join (outcomes.map fun ran => (emitOutcome format ran.1 ran.2).stdout) := by
  induction outcomes generalizing tally with
  | nil => rfl
  | cons ran rest ih =>
    obtain ⟨gate, outcome⟩ := ran
    cases outcome <;>
      simp only [tallySession, Session.stdout_bind, Session.stdout_print,
        Output.unlines_append, ih, Output.stdout_emitSession, emitOutcome, List.map_cons,
        String.join_cons]

theorem stderr_tallySession (verbosity : Nat) (format : Format) (tally : Tally)
    (outcomes : List (Gate × Outcome)) :
    Output.unlines ((tallySession format tally outcomes).stderr verbosity) =
      String.join (outcomes.map fun ran => (emitOutcome format ran.1 ran.2).stderr) := by
  induction outcomes generalizing tally with
  | nil => simp [tallySession, Output.unlines]
  | cons ran rest ih =>
    obtain ⟨gate, outcome⟩ := ran
    cases outcome <;>
      simp [tallySession, Output.unlines_append, ih, Output.stderr_emitSession, emitOutcome]


theorem emission_gateSession (verbosity : Nat) (source : Source) (config : Config)
    (format : Format) (gate : Gate) :
    (gateSession source config format gate).emission verbosity =
      (Output.emit gate.name (gate.run source config) format).behind
        (Log.lines verbosity (Log.gate source config gate)) := by
  rw [gateSession, Gate.session_eq, Session.telling_bind, Session.emission_after,
    Output.emission_emitSession]

theorem emission_allSession (verbosity : Nat) (source : Source) (config : Config)
    (format : Format) :
    (allSession source config format).emission verbosity =
      (emitAll format (Pipeline.run source config)).behind
        (Log.lines verbosity (Log.pipeline source config)) := by
  rw [allSession, Pipeline.session_eq, Session.telling_bind, Session.emission_after]
  congr 1
  simp only [Session.emission, Session.result_bind, Session.stdout_bind,
    Session.stderr_bind, Session.stdout_print, Session.stderr_print, Session.pure_eq,
    Session.result_telling, Session.stdout_telling, Session.stderr_telling,
    Log.lines_nil, List.append_nil, Output.unlines_append, stdout_tallySession,
    stderr_tallySession]
  rw [result_tallySession, ← Tally.ofOutcomes]
  simp only [emitAll, List.map_map, Function.comp_def]

theorem emission_performSession (verbosity : Nat) (source : Source) (config : Config)
    (format : Format) (task : Task) :
    (performSession source config format task).emission verbosity =
      (perform source config format task).behind
        (Log.lines verbosity (narrate source config task)) := by
  cases task with
  | list =>
    simp [performSession, perform, narrate, Session.emission, Emission.behind_nil,
      Output.unlines]
  | all => exact emission_allSession verbosity source config format
  | gate gate =>
    cases gate with
    | evidence family =>
      simp only [performSession, perform, narrate]
      cases config.family family with
      | error failure =>
        simp [Session.emission, Emission.behind_nil, Output.unlines]
      | ok entry => exact emission_gateSession verbosity source config format _
    | freeze => exact emission_gateSession verbosity source config format _
    | approvals => exact emission_gateSession verbosity source config format _
    | schema => exact emission_gateSession verbosity source config format _

/-- What a run prints is what its session leaves. -/
theorem run_eq_emission (surroundings : Surroundings) (line : Line) :
    run surroundings line = (session surroundings line).emission line.verbosity := by
  unfold run session
  cases selectConfig surroundings.files line.config with
  | error message => simp [Session.emission, Output.unlines]
  | ok config =>
    simp only [Session.tell_bind, Session.emission_after, emission_performSession,
      Emission.behind_behind, ← Log.lines_append]
    rfl

/-- However much is told, a run prints the same on the standard output and ends with
the same exit code. On the standard error it writes one and the same session, of which
the quiet run leaves the events out, so the lines of the quiet run stand among those of
the other in their order. -/
theorem verdicts_are_stable_under_telling (surroundings : Surroundings) (line : Line)
    (verbosity : Nat) :
    let written := session surroundings line
    let quiet := run surroundings { line with verbosity := 0 }
    let told := run surroundings { line with verbosity }
    told.stdout = quiet.stdout ∧ told.code = quiet.code ∧
      quiet.stderr = Output.unlines (written.stderr 0) ∧
      told.stderr = Output.unlines (written.stderr verbosity) ∧
      (Output.linesOf quiet.stderr).Sublist (Output.linesOf told.stderr) := by
  intro written quiet told
  have hquiet : quiet = written.emission 0 := run_eq_emission _ _
  have htold : told = written.emission verbosity := run_eq_emission _ _
  have hlines : (Output.linesOf (written.emission 0).stderr).Sublist
      (Output.linesOf (written.emission verbosity).stderr) := by
    simp only [Session.emission, Output.linesOf_unlines]
    exact (written.stderr_zero_sublist verbosity).flatMap _
  rw [hquiet, htold]
  exact ⟨rfl, rfl, rfl, rfl, hlines⟩

end Command

end Compliance
