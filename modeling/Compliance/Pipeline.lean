import Compliance.Gate

/-!
Running every gate of a configuration. The freeze gate comes first; when it fails all others are skipped, because
they read what it guarantees. Otherwise each gate runs whatever the others find.
-/

namespace Compliance

inductive Outcome where
  | ran (result : Except GateError Report)
  | skipped

namespace Outcome

def passed : Outcome → Bool
  | ran (.ok report) => report.passed
  | ran (.error _) => false
  | skipped => false

def isSkipped : Outcome → Bool
  | ran _ => false
  | skipped => true

end Outcome

namespace Pipeline

/-- The outcomes of gates that run one after the other. Once the freeze gate has failed, the rest are skipped. -/
def runFrom (source : Source) (config : Config) (skipping : Bool) : List Gate → List (Gate × Outcome)
  | [] => []
  | gate :: rest =>
    if skipping then (gate, .skipped) :: runFrom source config skipping rest
    else
      let outcome := Outcome.ran (gate.run source config)
      (gate, outcome) :: runFrom source config (gate == .freeze && !outcome.passed) rest

/-- Every gate with its outcome, in order. -/
def run (source : Source) (config : Config) : List (Gate × Outcome) :=
  runFrom source config false config.gates

end Pipeline

end Compliance
