import Compliance.Gate.Approvals
import Compliance.Gate.Evidence
import Compliance.Gate.Freeze
import Compliance.Gate.Schema

/-!
The gates of a configuration: three fixed ones and one for each family of control evidence. Running one yields a
report, or the error that stopped it.
-/

namespace Compliance

inductive Gate where
  | freeze
  | approvals
  | schema
  | evidence (family : String)
  deriving DecidableEq, Repr

/-- The entry of a family, which has to be configured. -/
def Config.family (config : Config) (family : String) : Except GateError EvidenceConfig :=
  match config.family? family with
  | some entry => .ok entry
  | none => .error (.unknownGate ("evidence " ++ family))

namespace Gate

def name : Gate → String
  | freeze => Freeze.gateName
  | approvals => Approvals.gateName
  | schema => Schema.gateName
  | evidence family => Evidence.gateName family

/-- The description of a gate; a family that is not configured has none. -/
def description (config : Config) : Gate → String
  | freeze => config.freeze.description
  | approvals => config.approvals.description
  | schema => config.schema.description
  | evidence family => ((config.family? family).map EvidenceConfig.description).getD ""

def run (source : Source) (config : Config) : Gate → Except GateError Report
  | freeze => Freeze.run source config.freeze
  | approvals => Approvals.run source config.approvals
  | schema => Schema.run source config.schema
  | evidence family =>
    match config.family family with
    | .error error => .error error
    | .ok entry => Evidence.run source entry

end Gate

/-- The gates of a configuration in the order in which they run. -/
def Config.gates (config : Config) : List Gate :=
  .freeze :: .approvals :: .schema :: config.evidence.map fun entry => .evidence entry.family

end Compliance
