import Compliance.Config
import Compliance.Report
import Compliance.Requirement

/-!
The canonical schema gate. The fields are checked before the enumeration, and the gate stops at the first rule that
is broken, so a schema broken both ways is reported for its fields only.
-/

namespace Compliance.Schema

def gateName : String := "schema"

def successLine : String := "canonical schema check passed"

/-- The requirements on a schema in the order in which they are checked. -/
def requirements (config : SchemaConfig) : List Requirement :=
  [.fieldCoverage config.path config.requiredFields,
   .enumEquality config.path config.enumPointer config.enumField config.eventTypes]

def missingReport (config : SchemaConfig) : Report :=
  (Report.fresh gateName successLine).fail (.missingArtifact config.path) config.missingMessage

/-- The report on a schema document, given the first violation found in it. -/
def report (document : Document) : Option Violation → Report
  | none => (Report.fresh gateName successLine).record document
  | some violation => ((Report.fresh gateName successLine).record document).fail violation violation.message

def run (source : Source) (config : SchemaConfig) : Except GateError Report :=
  match source.load config.path with
  | .error error => .error error
  | .ok none => .ok (missingReport config)
  | .ok (some document) =>
    (Requirement.firstViolation document (requirements config)).map (report document)

/-- What a gate that comes to an end has found: no schema, or one that could be checked. -/
theorem run_cases {source : Source} {config : SchemaConfig} {made : Report}
    (h : run source config = .ok made) :
    (source.load config.path = .ok none ∧ made = missingReport config) ∨
      ∃ document found, source.load config.path = .ok (some document) ∧
        Requirement.firstViolation document (requirements config) = .ok found ∧
        made = report document found := by
  unfold run at h
  cases hload : source.load config.path with
  | error failure => simp [hload] at h
  | ok loaded =>
    cases loaded with
    | none => exact .inl ⟨rfl, by simpa [hload] using h.symm⟩
    | some document =>
      cases hfound : Requirement.firstViolation document (requirements config) with
      | error failure => simp [hload, hfound, Except.map] at h
      | ok found =>
        refine .inr ⟨document, found, rfl, hfound, ?_⟩
        simpa [hload, hfound, Except.map] using h.symm

end Compliance.Schema
