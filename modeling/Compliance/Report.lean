import Compliance.Document
import Compliance.Json.Printer
import Compliance.Violation

/-!
Reports of gates: findings in order, digests of the documents looked at, and the lines that are printed. A report
without findings is a pass. Text puts the success line on the standard output and everything else on the standard
error; JSON is one line that holds all.
-/

namespace Compliance

structure Finding where
  violation : Violation
  message : String
  deriving DecidableEq, Repr

structure DocumentDigest where
  path : String
  sha256 : String
  deriving DecidableEq, Repr

structure Report where
  gate : String
  successLine : String
  /-- The line above the findings. -/
  header : Option String := none
  findings : List Finding := []
  documents : List DocumentDigest := []
  deriving DecidableEq, Repr

/-- Lines for the two output streams. -/
structure RenderedText where
  stdout : List String := []
  stderr : List String := []
  deriving DecidableEq, Repr

namespace Report

def fresh (gate successLine : String) : Report := { gate, successLine }

def withHeader (report : Report) (header : String) : Report := { report with header := some header }

def fail (report : Report) (violation : Violation) (message : String) : Report :=
  { report with findings := report.findings ++ [⟨violation, message⟩] }

/-- Adds violations in order, each with the line that is printed for it. -/
def failAll (report : Report) (line : Violation → String) (violations : List Violation) : Report :=
  violations.foldl (fun report violation => report.fail violation (line violation)) report

/-- Takes the digest of a document into the report. -/
def record (report : Report) (document : Document) : Report :=
  { report with documents := report.documents ++ [⟨document.path, document.sha256⟩] }

/-- One step in the making of a report. -/
inductive Step where
  | header (line : String)
  | fail (violation : Violation) (message : String)
  | record (document : Document)
  deriving DecidableEq

def apply (report : Report) : Step → Report
  | .header line => report.withHeader line
  | .fail violation message => report.fail violation message
  | .record document => report.record document

def passed (report : Report) : Bool := report.findings.isEmpty

def violations (report : Report) : List Violation := report.findings.map Finding.violation

def exitCode (report : Report) : Nat := if report.passed then 0 else 1

def messages (report : Report) : List String := report.findings.map Finding.message

def renderText (report : Report) : RenderedText :=
  if report.passed then { stdout := [report.successLine] }
  else match report.header with
    | some header => { stderr := header :: report.messages.map ("- " ++ ·) }
    | none => { stderr := report.messages }

@[simp] theorem findings_fail (report : Report) (violation : Violation) (message : String) :
    (report.fail violation message).findings = report.findings ++ [⟨violation, message⟩] := rfl

@[simp] theorem header_fail (report : Report) (violation : Violation) (message : String) :
    (report.fail violation message).header = report.header := rfl

@[simp] theorem documents_fail (report : Report) (violation : Violation) (message : String) :
    (report.fail violation message).documents = report.documents := rfl

@[simp] theorem findings_record (report : Report) (document : Document) :
    (report.record document).findings = report.findings := rfl

@[simp] theorem header_record (report : Report) (document : Document) :
    (report.record document).header = report.header := rfl

@[simp] theorem documents_record (report : Report) (document : Document) :
    (report.record document).documents = report.documents ++ [⟨document.path, document.sha256⟩] := rfl

@[simp] theorem findings_withHeader (report : Report) (header : String) :
    (report.withHeader header).findings = report.findings := rfl

@[simp] theorem header_withHeader (report : Report) (header : String) :
    (report.withHeader header).header = some header := rfl

@[simp] theorem documents_withHeader (report : Report) (header : String) :
    (report.withHeader header).documents = report.documents := rfl

@[simp] theorem findings_fresh (gate successLine : String) : (fresh gate successLine).findings = [] := rfl

@[simp] theorem header_fresh (gate successLine : String) : (fresh gate successLine).header = none := rfl

@[simp] theorem documents_fresh (gate successLine : String) : (fresh gate successLine).documents = [] := rfl

/-- Adding violations lengthens the findings and leaves the rest of a report alone. -/
theorem failAll_eq (report : Report) (line : Violation → String) (violations : List Violation) :
    report.failAll line violations =
      { report with
        findings := report.findings ++ violations.map fun violation => ⟨violation, line violation⟩ } := by
  induction violations generalizing report with
  | nil => simp [failAll]
  | cons violation rest ih =>
    rw [failAll, List.foldl_cons, ← failAll, ih]
    simp [fail]

theorem failAll_append (report : Report) (line : Violation → String) (first second : List Violation) :
    report.failAll line (first ++ second) = (report.failAll line first).failAll line second :=
  List.foldl_append

theorem violations_failAll (report : Report) (line : Violation → String) (found : List Violation) :
    (report.failAll line found).violations = report.violations ++ found := by
  have hlines : (found.map fun violation => Finding.mk violation (line violation)).map
      Finding.violation = found := by
    rw [List.map_map]
    exact List.map_id found
  simp only [violations, failAll_eq, List.map_append, hlines]

theorem passed_iff {report : Report} : report.passed = true ↔ report.findings = [] := by
  simp [passed]

end Report

def Finding.json (finding : Finding) : Json :=
  .ofMembers (finding.violation.members ++ [("message", .string finding.message)])

def DocumentDigest.json (digest : DocumentDigest) : Json :=
  .ofMembers [("path", .string digest.path), ("sha256", .string digest.sha256)]

def Report.json (report : Report) : Json :=
  .ofMembers
    [("gate", .string report.gate),
     ("passed", .boolean report.passed),
     ("failures", .array (report.findings.map Finding.json)),
     ("documents", .array (report.documents.map DocumentDigest.json))]

end Compliance
