import Compliance.Proofs.Families
import Compliance.Proofs.GateRefinement

/-!
The name that a report is made with stays its name: no finding, header or digest
changes it, so the report of a gate carries the name of the gate.
-/

namespace Compliance

@[simp] theorem Report.gate_fresh (gate successLine : String) :
    (fresh gate successLine).gate = gate := rfl

@[simp] theorem Report.gate_withHeader (report : Report) (header : String) :
    (report.withHeader header).gate = report.gate := rfl

@[simp] theorem Report.gate_fail (report : Report) (violation : Violation)
    (message : String) : (report.fail violation message).gate = report.gate := rfl

@[simp] theorem Report.gate_record (report : Report) (document : Document) :
    (report.record document).gate = report.gate := rfl

@[simp] theorem Report.gate_failAll (report : Report) (line : Violation → String)
    (violations : List Violation) :
    (report.failAll line violations).gate = report.gate := by
  rw [failAll_eq]

theorem Approvals.gate_of_run {source : Source} {config : ApprovalsConfig}
    {made : Report} (h : run source config = .ok made) : made.gate = gateName := by
  rcases run_cases h with ⟨_, rfl⟩ | ⟨document, decisions, _, _, rfl⟩
  · rfl
  · simp [report]

theorem Schema.gate_of_run {source : Source} {config : SchemaConfig}
    {made : Report} (h : run source config = .ok made) : made.gate = gateName := by
  rcases run_cases h with ⟨_, rfl⟩ | ⟨document, found, _, _, rfl⟩
  · rfl
  · cases found <;> rfl

/-- Checking documents never renames a report. -/
theorem Evidence.gate_of_check {source : Source} {config : EvidenceConfig}
    {entries : List EvidenceDocument} {start made : Report}
    (h : check source config start entries = .ok made) : made.gate = start.gate := by
  induction entries generalizing start with
  | nil =>
    cases h
    rfl
  | cons entry rest ih =>
    unfold check at h
    split at h
    · cases h
    · cases h
      rfl
    split at h
    · cases h
    · cases h
      rfl
    · have hrest := ih h
      rw [hrest, Report.gate_record]

/-- The report of a gate carries the name of the gate. -/
theorem Gate.gate_of_run {source : Source} {config : Config} {gate : Gate}
    {made : Report} (h : gate.run source config = .ok made) :
    made.gate = gate.name := by
  cases gate with
  | freeze =>
    simp only [Gate.run, Freeze.run_eq, Except.ok.injEq] at h
    rw [← h]
    simp [Gate.name]
  | approvals => exact Approvals.gate_of_run h
  | schema => exact Schema.gate_of_run h
  | evidence family =>
    simp only [Gate.run] at h
    split at h
    · cases h
    · next entry hentry =>
      rw [Evidence.gate_of_check h, Report.gate_fresh, (Config.of_family_eq_ok hentry).2]
      rfl

end Compliance
