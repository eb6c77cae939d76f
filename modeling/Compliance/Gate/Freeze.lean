import Compliance.Config
import Compliance.Report
import Compliance.Requirement

/-!
The contract freeze gate: every path of the frozen release has to exist. All missing paths are reported together.
-/

namespace Compliance.Freeze

def gateName : String := "freeze"

def header : String := "contract freeze check failed; missing files:"

def successLine : String := "contract freeze check passed"

def requirements (config : FreezeConfig) : List Requirement :=
  config.requiredPaths.map .existence

/-- The line for a violation; a missing path is named and nothing else. -/
def line : Violation → String
  | .missingArtifact path => path
  | violation => violation.message

/-- Evaluates requirements in order and adds to a report whatever they find. -/
def check (source : Source) (report : Report) : List Requirement → Except GateError Report
  | [] => .ok report
  | requirement :: rest =>
    match requirement.evaluate source with
    | .error error => .error error
    | .ok violations => check source (report.failAll line violations) rest

def run (source : Source) (config : FreezeConfig) : Except GateError Report :=
  check source ((Report.fresh gateName successLine).withHeader header) (requirements config)

end Compliance.Freeze
