import Compliance.Config
import Compliance.Json.Printer
import Compliance.Report

/-!
The impact approval gate. The ledger is a JSON object with a list of decisions; a decision with a financial impact
needs the approval of finance, one with a control impact that of controls. Every approval that is missing is
reported, in the order of the ledger. A flag is read by its truth value, so a flag that is absent is false.
-/

namespace Compliance.Approvals

def gateName : String := "approvals"

def header : String := "impact approval check failed:"

def successLine : String := "impact approval check passed"

/-- What a decision without an id is called. -/
def unknownId : String := "unknown"

structure Decision where
  id : String
  financialImpact : Bool
  controlImpact : Bool
  financeApproved : Bool
  controlsApproved : Bool
  deriving DecidableEq, Repr

/-- The label of a decision: a string stands for itself, and what is no name is written as JSON. -/
def label : Option Json → String
  | none => unknownId
  | some .null => unknownId
  | some (.string text) => text
  | some (.boolean true) => "True"
  | some (.boolean false) => "False"
  | some value => value.text

/-- The truth value of a member that may be absent. -/
def truthy (value : Option Json) : Bool := (value.map Json.truthy).getD false

namespace Decision

def ofJson? (value : Json) : Option Decision :=
  if value.isObject then
    some {
      id := label (value.member? "id")
      financialImpact := truthy (value.member? "financial_impact")
      controlImpact := truthy (value.member? "control_impact")
      financeApproved := truthy (value.member? "finance_approved")
      controlsApproved := truthy (value.member? "controls_approved") }
  else none

/-- The approvals that a decision lacks, finance first. -/
def violations (decision : Decision) : List Violation :=
  (if decision.financialImpact && !decision.financeApproved then
    [.approvalMissing decision.id .finance] else []) ++
  (if decision.controlImpact && !decision.controlsApproved then
    [.approvalMissing decision.id .controls] else [])

end Decision

/-- The decisions that items stand for, the first of them at position `index` of the ledger. -/
def decisionsFrom (path : String) (index : Nat) : List Json → Except GateError (List Decision)
  | [] => .ok []
  | item :: rest =>
    match Decision.ofJson? item with
    | none => .error (.malformed path (.decisionNotObject index))
    | some decision => (decisionsFrom path (index + 1) rest).map (decision :: ·)

/-- The decisions of a ledger in order. A ledger that does not speak of decisions has none; what it calls its
decisions has to be a list. -/
def decisions (path : String) (ledger : Json) : Except GateError (List Decision) :=
  match ledger.member? "decisions" with
  | none => .ok []
  | some (.array items) => decisionsFrom path 0 items
  | some _ => .error (.malformed path .decisionsNotList)

/-- The decisions of a ledger document, which has to be a JSON object. -/
def decisionsOf (document : Document) : Except GateError (List Decision) :=
  match document.object with
  | .error error => .error error
  | .ok ledger => decisions document.path ledger

/-- The report on a ledger that has been read. -/
def report (document : Document) (decisions : List Decision) : Report :=
  (((Report.fresh gateName successLine).withHeader header).record document).failAll Violation.message
    (decisions.flatMap Decision.violations)

/-- The report on a ledger that is not there: a single line without a header. -/
def missingReport (path : String) : Report :=
  let violation := Violation.missingArtifact path
  (Report.fresh gateName successLine).fail violation violation.message

def run (source : Source) (config : ApprovalsConfig) : Except GateError Report :=
  match source.load config.ledger with
  | .error error => .error error
  | .ok none => .ok (missingReport config.ledger)
  | .ok (some document) => (decisionsOf document).map (report document)

/-- What a gate that comes to an end has found: no ledger, or one whose decisions can be read. -/
theorem run_cases {source : Source} {config : ApprovalsConfig} {made : Report}
    (h : run source config = .ok made) :
    (source.load config.ledger = .ok none ∧ made = missingReport config.ledger) ∨
      ∃ document decisions, source.load config.ledger = .ok (some document) ∧
        decisionsOf document = .ok decisions ∧ made = report document decisions := by
  unfold run at h
  cases hload : source.load config.ledger with
  | error failure => simp [hload] at h
  | ok loaded =>
    cases loaded with
    | none => exact .inl ⟨rfl, by simpa [hload] using h.symm⟩
    | some document =>
      cases hdecisions : decisionsOf document with
      | error failure => simp [hload, hdecisions, Except.map] at h
      | ok decisions =>
        refine .inr ⟨document, decisions, rfl, hdecisions, ?_⟩
        simpa [hload, hdecisions, Except.map] using h.symm

end Compliance.Approvals
