import Compliance.Config
import Compliance.Report
import Compliance.Requirement

/-!
The control evidence gate of one family. The documents are checked in the order of the configuration, and the gate
stops at the first problem, so a failing run reports exactly one line.
-/

namespace Compliance.Evidence

def gateName (family : String) : String := "evidence." ++ family

def successLine (family : String) : String := family ++ " controls evidence check passed"

/-- The requirements on one document in the order in which they are checked: first that it is free of the forbidden
marker, if there is one, then that it holds its snippets. -/
def requirements (config : EvidenceConfig) (entry : EvidenceDocument) : List Requirement :=
  (match config.forbiddenMarker with
    | some marker => [.snippetAbsence entry.path marker.text marker.label]
    | none => []) ++
  [.snippetPresence entry.path entry.snippets]

/-- The line for a violation; a missing document has a wording of its own here. -/
def line : Violation → String
  | .missingArtifact path => "missing required control artifact: " ++ path
  | violation => violation.message

/-- Checks documents and adds to a report what is found. -/
def check (source : Source) (config : EvidenceConfig) (report : Report) :
    List EvidenceDocument → Except GateError Report
  | [] => .ok report
  | entry :: rest =>
    match source.load entry.path with
    | .error error => .error error
    | .ok none =>
      let violation := Violation.missingArtifact entry.path
      .ok (report.fail violation (line violation))
    | .ok (some document) =>
      match Requirement.firstViolation document (requirements config entry) with
      | .error error => .error error
      | .ok (some violation) => .ok ((report.record document).fail violation (line violation))
      | .ok none => check source config (report.record document) rest

def run (source : Source) (config : EvidenceConfig) : Except GateError Report :=
  check source config (Report.fresh (gateName config.family) (successLine config.family)) config.documents

end Compliance.Evidence
