import Compliance.Log.Narration
import Compliance.Proofs.ReportNames

/-!
Runs as they happen. The verdicts of the gates and the story of their events are
two computations; a session is both at once, with each event told at the place
where it happens. Gates told in this way come to the same results and tell the
same stories.
-/

namespace Compliance

/-- One thing that a run writes: an event, which is told if the verbosity is up
to it, or a line on an output stream. -/
inductive Write where
  | told (event : Log.Event)
  | out (line : String)
  | err (line : String)
  deriving DecidableEq

/-- What is written on the way to a result, in the order of time. -/
structure Session (α : Type) where
  writes : List Write
  result : α

namespace Session

variable {α β : Type}

instance : Monad Session where
  pure result := ⟨[], result⟩
  bind first next :=
    ⟨first.writes ++ (next first.result).writes, (next first.result).result⟩

def tell (event : Log.Event) : Session Unit := ⟨[.told event], ()⟩

/-- A result with nothing but events on the way. -/
def telling (events : List Log.Event) (result : α) : Session α :=
  ⟨events.map .told, result⟩

/-- Events told before a session begins. -/
def after (events : List Log.Event) (session : Session α) : Session α :=
  ⟨events.map .told ++ session.writes, session.result⟩

@[simp] theorem pure_eq (result : α) : (pure result : Session α) = telling [] result :=
  rfl

@[simp] theorem telling_bind (events : List Log.Event) (result : α)
    (next : α → Session β) : telling events result >>= next = after events (next result) :=
  rfl

@[simp] theorem tell_bind (event : Log.Event) (next : Unit → Session α) :
    tell event >>= next = after [event] (next ()) := rfl

@[simp] theorem after_telling (events more : List Log.Event) (result : α) :
    after events (telling more result) = telling (events ++ more) result := by
  simp [after, telling]

end Session

/-! ## Documents, findings and requirements -/

/-- Loading from a disk tells of the document that is there. -/
def Source.loadSession (source : Source) (path : String) :
    Session (Except GateError (Option Document)) :=
  match source.load path with
  | .ok (some document) => do
    Session.tell (Log.loaded document)
    return .ok (some document)
  | other => return other

namespace Report

/-- A finding is told when it is taken into a report. -/
def failSession (report : Report) (violation : Violation) (message : String) :
    Session Report := do
  Session.tell (.foundViolation report.gate violation message)
  return report.fail violation message

def failAllSession (report : Report) (line : Violation → String) :
    List Violation → Session Report
  | [] => return report
  | violation :: rest => do
    let failed ← report.failSession violation (line violation)
    failed.failAllSession line rest

theorem failSession_eq (report : Report) (violation : Violation) (message : String) :
    report.failSession violation message =
      .telling [.foundViolation report.gate violation message]
        (report.fail violation message) := rfl

theorem failAllSession_eq (report : Report) (line : Violation → String)
    (violations : List Violation) :
    report.failAllSession line violations =
      .telling
        (violations.map fun violation =>
          .foundViolation report.gate violation (line violation))
        (report.failAll line violations) := by
  induction violations generalizing report with
  | nil => rfl
  | cons violation rest ih => simp [failAllSession, failSession_eq, ih, failAll]

end Report

namespace Requirement

/-- Evaluation against a document that has been loaded, which is told before it is
done. -/
def evaluateDocumentSession (requirement : Requirement) (document : Document) :
    Session (Except GateError (List Violation)) := do
  Session.tell (.evaluatingRequirement document.path requirement)
  return requirement.evaluateDocument document

def evaluateSession (requirement : Requirement) (source : Source) :
    Session (Except GateError (List Violation)) :=
  match requirement with
  | existence path => do
    Session.tell (.evaluatingExistence path)
    return .ok (checkExistence source path)
  | content => do
    match ← source.loadSession content.path with
    | .error failure => return .error failure
    | .ok none => return .ok [.missingArtifact content.path]
    | .ok (some document) => content.evaluateDocumentSession document

def firstViolationSession (document : Document) :
    List Requirement → Session (Except GateError (Option Violation))
  | [] => return .ok none
  | requirement :: rest => do
    match ← requirement.evaluateDocumentSession document with
    | .error failure => return .error failure
    | .ok (violation :: _) => return .ok (some violation)
    | .ok [] => firstViolationSession document rest

theorem evaluateDocumentSession_eq (requirement : Requirement) (document : Document) :
    requirement.evaluateDocumentSession document =
      .telling [.evaluatingRequirement document.path requirement]
        (requirement.evaluateDocument document) := rfl

theorem firstViolationSession_eq (document : Document)
    (requirements : List Requirement) :
    firstViolationSession document requirements =
      .telling (Log.evaluations document requirements)
        (firstViolation document requirements) := by
  induction requirements with
  | nil => rfl
  | cons requirement rest ih =>
    simp only [firstViolationSession, firstViolation, Log.evaluations,
      evaluateDocumentSession_eq, Session.telling_bind]
    cases requirement.evaluateDocument document with
    | error failure => simp
    | ok found =>
      cases found with
      | nil => simp [ih]
      | cons violation others => simp

end Requirement

/-! ## Gates -/

namespace Freeze

def checkSession (source : Source) (report : Report) :
    List Requirement → Session (Except GateError Report)
  | [] => return .ok report
  | requirement :: rest => do
    match ← requirement.evaluateSession source with
    | .error failure => return .error failure
    | .ok violations =>
      let failed ← report.failAllSession line violations
      checkSession source failed rest

def session (source : Source) (config : FreezeConfig) :
    Session (Except GateError Report) := do
  let start := (Report.fresh gateName successLine).withHeader header
  match ← checkSession source start (requirements config) with
  | .error failure => return .error failure
  | .ok report =>
    Session.tell (.evaluatedGate gateName report.passed)
    return .ok report

/-- What is told of one required path. -/
def pathEvents (source : Source) (path : String) : List Log.Event :=
  .evaluatingExistence path ::
    if source.has path then [] else [.foundViolation gateName (.missingArtifact path) path]

theorem checkSession_eq (source : Source) (report : Report) (paths : List String)
    (h : report.gate = gateName) :
    checkSession source report (paths.map .existence) =
      .telling (paths.flatMap (pathEvents source))
        (check source report (paths.map .existence)) := by
  induction paths generalizing report with
  | nil => rfl
  | cons path rest ih =>
    have hfailed : (report.failAll line (Requirement.checkExistence source path)).gate =
        gateName := by rw [Report.gate_failAll, h]
    simp only [List.map_cons, List.flatMap_cons, checkSession, check,
      Requirement.evaluateSession, Requirement.evaluate, Report.failAllSession_eq,
      Session.tell_bind, Session.pure_eq, Session.telling_bind, Session.after_telling,
      ih _ hfailed]
    cases hpath : source.has path <;>
      simp [pathEvents, Requirement.checkExistence, line, h, hpath]

/-- A freeze gate that is told as it happens comes to its verdict, with its story
on the way. -/
theorem session_eq (source : Source) (config : FreezeConfig) :
    session source config = .telling (Log.freeze source config) (run source config) := by
  have hcheck : checkSession source
      ((Report.fresh gateName successLine).withHeader header) (requirements config) =
        .telling (config.requiredPaths.flatMap (pathEvents source)) (run source config) :=
    checkSession_eq source _ config.requiredPaths rfl
  have hlog : Log.freeze source config =
      config.requiredPaths.flatMap (pathEvents source) ++
        match run source config with
        | .error _ => []
        | .ok report => [.evaluatedGate gateName report.passed] := rfl
  rw [session, hcheck, Session.telling_bind, hlog]
  cases run source config <;> simp

end Freeze

namespace Approvals

def session (source : Source) (config : ApprovalsConfig) :
    Session (Except GateError Report) := do
  match ← source.loadSession config.ledger with
  | .error failure => return .error failure
  | .ok none =>
    let violation := Violation.missingArtifact config.ledger
    return .ok (← (Report.fresh gateName successLine).failSession violation violation.message)
  | .ok (some document) =>
    let start := ((Report.fresh gateName successLine).withHeader header).record document
    match decisionsOf document with
    | .error failure => return .error failure
    | .ok decisions =>
      Session.tell (.countedDecisions decisions.length)
      let report ← start.failAllSession Violation.message
        (decisions.flatMap Decision.violations)
      Session.tell (.evaluatedGate gateName report.passed)
      return .ok report

theorem findings_report (document : Document) (decisions : List Decision) :
    Log.findings (report document decisions) =
      (decisions.flatMap Decision.violations).map fun violation =>
        .foundViolation gateName violation violation.message := by
  simp [Log.findings, report, Report.failAll_eq]

theorem session_eq (source : Source) (config : ApprovalsConfig) :
    session source config =
      .telling (Log.approvals source config) (run source config) := by
  unfold session run Log.approvals Source.loadSession
  cases source.load config.ledger with
  | error failure => simp
  | ok found =>
    cases found with
    | none => rfl
    | some document =>
      cases hdecisions : decisionsOf document with
      | error failure => simp [hdecisions, Except.map]
      | ok decisions =>
        simp only [hdecisions, Except.map, findings_report, Report.failAllSession_eq,
          Session.tell_bind, Session.telling_bind, Session.after_telling, Session.pure_eq]
        rfl

end Approvals

namespace Schema

def session (source : Source) (config : SchemaConfig) :
    Session (Except GateError Report) := do
  match ← source.loadSession config.path with
  | .error failure => return .error failure
  | .ok none =>
    return .ok (← (Report.fresh gateName successLine).failSession
      (.missingArtifact config.path) config.missingMessage)
  | .ok (some document) =>
    let start := (Report.fresh gateName successLine).record document
    match ← Requirement.firstViolationSession document (requirements config) with
    | .error failure => return .error failure
    | .ok found =>
      let report ← match found with
        | none => pure start
        | some violation => start.failSession violation violation.message
      Session.tell (.evaluatedGate gateName report.passed)
      return .ok report

theorem session_eq (source : Source) (config : SchemaConfig) :
    session source config = .telling (Log.schema source config) (run source config) := by
  unfold session run Log.schema Source.loadSession
  cases source.load config.path with
  | error failure => simp
  | ok loaded =>
    cases loaded with
    | none => rfl
    | some document =>
      cases hfirst : Requirement.firstViolation document (requirements config) with
      | error failure =>
        simp [Requirement.firstViolationSession_eq, hfirst, Except.map]
      | ok found =>
        cases found <;>
          simp [Requirement.firstViolationSession_eq, hfirst, Except.map, report,
            Report.failSession_eq, Log.findings]

end Schema

namespace Evidence

def checkSession (source : Source) (config : EvidenceConfig) (report : Report) :
    List EvidenceDocument → Session (Except GateError Report)
  | [] => do
    Session.tell (.completedEvidence report.gate)
    return .ok report
  | entry :: rest => do
    match ← source.loadSession entry.path with
    | .error failure => return .error failure
    | .ok none =>
      let violation := Violation.missingArtifact entry.path
      return .ok (← report.failSession violation (line violation))
    | .ok (some document) =>
      let recorded := report.record document
      match ← Requirement.firstViolationSession document (requirements config entry) with
      | .error failure => return .error failure
      | .ok (some violation) =>
        return .ok (← recorded.failSession violation (line violation))
      | .ok none => checkSession source config recorded rest

theorem checkSession_eq {source : Source} {config : EvidenceConfig} {report : Report}
    {entries : List EvidenceDocument} (h : report.gate = gateName config.family) :
    checkSession source config report entries =
      .telling (Log.evidenceDocuments source config entries)
        (check source config report entries) := by
  induction entries generalizing report with
  | nil => simp [checkSession, check, Log.evidenceDocuments, h]
  | cons entry rest ih =>
    unfold checkSession check Log.evidenceDocuments Source.loadSession
    cases source.load entry.path with
    | error failure => simp
    | ok loaded =>
      cases loaded with
      | none => simp [Report.failSession_eq, h]
      | some document =>
        have hrecorded : (report.record document).gate = gateName config.family := h
        cases hfirst : Requirement.firstViolation document (requirements config entry) with
        | error failure => simp [Requirement.firstViolationSession_eq, hfirst]
        | ok found =>
          cases found <;>
            simp [Requirement.firstViolationSession_eq, hfirst, Report.failSession_eq,
              h, ih hrecorded]

def session (source : Source) (config : EvidenceConfig) :
    Session (Except GateError Report) :=
  checkSession source config
    (Report.fresh (gateName config.family) (successLine config.family)) config.documents

theorem session_eq (source : Source) (config : EvidenceConfig) :
    session source config =
      .telling (Log.evidence source config) (run source config) := checkSession_eq rfl

end Evidence

namespace Gate

def session (source : Source) (config : Config) (gate : Gate) :
    Session (Except GateError Report) := do
  Session.tell (.runningGate gate.name)
  match gate with
  | freeze => Freeze.session source config.freeze
  | approvals => Approvals.session source config.approvals
  | schema => Schema.session source config.schema
  | evidence family =>
    match config.family family with
    | .error failure => return .error failure
    | .ok entry => Evidence.session source entry

theorem session_eq (source : Source) (config : Config) (gate : Gate) :
    gate.session source config =
      .telling (Log.gate source config gate) (gate.run source config) := by
  cases gate with
  | freeze => simp [session, Freeze.session_eq, Log.gate, run]
  | approvals => simp [session, Approvals.session_eq, Log.gate, run]
  | schema => simp [session, Schema.session_eq, Log.gate, run]
  | evidence family =>
    cases hfamily : config.family family <;>
      simp [session, Evidence.session_eq, Log.gate, run, hfamily]

end Gate

namespace Pipeline

def sessionFrom (source : Source) (config : Config) (skipping : Bool) :
    List Gate → Session (List (Gate × Outcome))
  | [] => return []
  | gate :: rest =>
    if skipping then do
      Session.tell (.skippedGate gate.name)
      let others ← sessionFrom source config skipping rest
      return (gate, .skipped) :: others
    else do
      let outcome := Outcome.ran (← gate.session source config)
      let others ← sessionFrom source config (gate == .freeze && !outcome.passed) rest
      return (gate, outcome) :: others

def session (source : Source) (config : Config) : Session (List (Gate × Outcome)) :=
  sessionFrom source config false config.gates

/-- What is told of one gate of a run. -/
def outcomeEvents (source : Source) (config : Config) (ran : Gate × Outcome) :
    List Log.Event :=
  if ran.2.isSkipped then [.skippedGate ran.1.name] else Log.gate source config ran.1

theorem sessionFrom_eq (source : Source) (config : Config) (skipping : Bool)
    (gates : List Gate) :
    sessionFrom source config skipping gates =
      .telling
        ((runFrom source config skipping gates).flatMap (outcomeEvents source config))
        (runFrom source config skipping gates) := by
  induction gates generalizing skipping with
  | nil => rfl
  | cons gate rest ih =>
    cases skipping <;>
      simp [sessionFrom, runFrom, ih, Gate.session_eq, outcomeEvents, Outcome.isSkipped]

theorem session_eq (source : Source) (config : Config) :
    session source config = .telling (Log.pipeline source config) (run source config) :=
  sessionFrom_eq source config false config.gates

end Pipeline

end Compliance
