import Compliance.Log.Event
import Compliance.Pipeline

/-!
What happens while gates run, told as events: documents loaded, requirements evaluated, violations found. The
verdicts are made elsewhere; here they are only followed.
-/

namespace Compliance.Log

/-- A document that has come out of a source. -/
def loaded (document : Document) : Event := .loadedDocument document.path document.content.utf8ByteSize

/-- The requirements on a document that are evaluated, up to the first one that is not met. -/
def evaluations (document : Document) : List Requirement → List Event
  | [] => []
  | requirement :: rest =>
    .evaluatingRequirement document.path requirement ::
      match requirement.evaluateDocument document with
      | .ok [] => evaluations document rest
      | _ => []

def freeze (source : Source) (config : FreezeConfig) : List Event :=
  (config.requiredPaths.flatMap fun path =>
    .evaluatingExistence path ::
      (if source.has path then []
        else [.foundViolation Freeze.gateName (.missingArtifact path) path])) ++
  match Freeze.run source config with
  | .error _ => []
  | .ok report => [.evaluatedGate Freeze.gateName report.passed]

/-- Every finding of a report. -/
def findings (report : Report) : List Event :=
  report.findings.map fun finding => .foundViolation report.gate finding.violation finding.message

def approvals (source : Source) (config : ApprovalsConfig) : List Event :=
  match source.load config.ledger with
  | .error _ => []
  | .ok none => findings (Approvals.missingReport config.ledger)
  | .ok (some document) =>
    loaded document ::
      match Approvals.decisionsOf document with
      | .error _ => []
      | .ok decisions =>
        let report := Approvals.report document decisions
        .countedDecisions decisions.length :: findings report ++
          [.evaluatedGate Approvals.gateName report.passed]

def schema (source : Source) (config : SchemaConfig) : List Event :=
  match source.load config.path with
  | .error _ => []
  | .ok none => findings (Schema.missingReport config)
  | .ok (some document) =>
    let requirements := Schema.requirements config
    loaded document :: evaluations document requirements ++
      match Requirement.firstViolation document requirements with
      | .error _ => []
      | .ok violation =>
        let report := Schema.report document violation
        findings report ++ [.evaluatedGate Schema.gateName report.passed]

/-- The check of evidence documents, up to the first problem. -/
def evidenceDocuments (source : Source) (config : EvidenceConfig) : List EvidenceDocument → List Event
  | [] => [.completedEvidence (Evidence.gateName config.family)]
  | entry :: rest =>
    let found (violation : Violation) : Event :=
      .foundViolation (Evidence.gateName config.family) violation (Evidence.line violation)
    match source.load entry.path with
    | .error _ => []
    | .ok none => [found (.missingArtifact entry.path)]
    | .ok (some document) =>
      let requirements := Evidence.requirements config entry
      loaded document :: evaluations document requirements ++
        match Requirement.firstViolation document requirements with
        | .error _ => []
        | .ok (some violation) => [found violation]
        | .ok none => evidenceDocuments source config rest

def evidence (source : Source) (config : EvidenceConfig) : List Event :=
  evidenceDocuments source config config.documents

def gate (source : Source) (config : Config) (gate : Gate) : List Event :=
  .runningGate gate.name ::
    match gate with
    | .freeze => freeze source config.freeze
    | .approvals => approvals source config.approvals
    | .schema => schema source config.schema
    | .evidence family =>
      match config.family family with
      | .error _ => []
      | .ok entry => evidence source entry

def pipeline (source : Source) (config : Config) : List Event :=
  (Pipeline.run source config).flatMap fun (ran, outcome) =>
    if outcome.isSkipped then [.skippedGate ran.name] else gate source config ran

end Compliance.Log
