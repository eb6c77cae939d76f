import Compliance.Output
import Mathlib.Data.List.Basic

/-!
What a report is made of. The steps that make it fall into three streams, the findings,
the documents and the headers, and none of them touches another: the report keeps the
findings and the documents in their order and the last of the headers, however the steps
are mixed. So a report fails from its first finding on. A finding is one kind of step,
whether the report is changed in place or handed on with the finding in it.
-/

namespace Compliance.Report

/-- The finding that a step adds. -/
def Step.finding? : Step → Option Finding
  | header _ => none
  | fail violation message => some ⟨violation, message⟩
  | record _ => none

/-- The document that a step takes the digest of. -/
def Step.document? : Step → Option Document
  | header _ => none
  | fail _ _ => none
  | record document => some document

/-- The header that a step sets. -/
def Step.header? : Step → Option String
  | header line => some line
  | fail _ _ => none
  | record _ => none

def digest (document : Document) : DocumentDigest := ⟨document.path, document.sha256⟩

/-- The report that steps make, one after the other. -/
def made (gate successLine : String) (steps : List Step) : Report :=
  steps.foldl apply (fresh gate successLine)

/-- Two ways to mix the same three streams. -/
structure SameStreams (first second : List Step) : Prop where
  findings : first.filterMap Step.finding? = second.filterMap Step.finding?
  documents : first.filterMap Step.document? = second.filterMap Step.document?
  headers : first.filterMap Step.header? = second.filterMap Step.header?

/-- A step adds to one part of a report and leaves the others alone. -/
theorem apply_eq (report : Report) (step : Step) :
    report.apply step =
      { report with
        header := step.header?.or report.header
        findings := report.findings ++ step.finding?.toList
        documents := report.documents ++ step.document?.toList.map digest } := by
  cases step <;>
    simp [apply, withHeader, fail, record, Step.header?, Step.finding?, Step.document?,
      digest]

/-- What steps add, each stream to its part. -/
theorem foldl_apply_eq (report : Report) (steps : List Step) :
    steps.foldl apply report =
      { report with
        header := (steps.filterMap Step.header?).getLast?.or report.header
        findings := report.findings ++ steps.filterMap Step.finding?
        documents := report.documents ++ (steps.filterMap Step.document?).map digest } := by
  induction steps generalizing report with
  | nil => simp
  | cons step rest ih =>
    have hlast : step.header?.toList.getLast? = step.header? := by
      cases step.header? <;> rfl
    rw [List.foldl_cons, ih, apply_eq]
    simp [List.filterMap_eq_flatMap_toList, List.getLast?_append, hlast, Option.or_assoc]

section Made

variable {gate successLine : String} {steps : List Step}

theorem made_eq (gate successLine : String) (steps : List Step) :
    made gate successLine steps =
      { gate, successLine
        header := (steps.filterMap Step.header?).getLast?
        findings := steps.filterMap Step.finding?
        documents := (steps.filterMap Step.document?).map digest } := by
  simp [made, foldl_apply_eq, fresh]

theorem SameStreams.made_eq_made {first second : List Step} (h : SameStreams first second)
    (gate successLine : String) :
    made gate successLine first = made gate successLine second := by
  rw [made_eq, made_eq, h.findings, h.documents, h.headers]

theorem passed_made_iff :
    (made gate successLine steps).passed = true ↔
      ∀ violation message, .fail violation message ∉ steps := by
  rw [passed_iff, made_eq, List.filterMap_eq_nil_iff]
  constructor
  · intro h violation message hstep
    cases h _ hstep
  · intro h step hstep
    cases step with
    | header line => rfl
    | fail violation message => exact absurd hstep (h violation message)
    | record document => rfl

/-- Further steps leave a failure a failure. -/
theorem failed_made_append (h : (made gate successLine steps).passed = false)
    (later : List Step) : (made gate successLine (steps ++ later)).passed = false := by
  rw [← Bool.not_eq_true, passed_made_iff] at h ⊢
  intro hnone
  apply h
  intro violation message hstep
  exact hnone violation message (List.mem_append_left later hstep)

/-- Something is printed on one of the two outputs, and nothing on the other. -/
theorem renderText_one_output (report : Report) :
    Xor (report.renderText.stdout ≠ []) (report.renderText.stderr ≠ []) := by
  cases hpassed : report.passed with
  | true => simp [renderText, hpassed, Xor]
  | false =>
    have hfindings : report.messages ≠ [] := by
      have hnot : ¬report.passed = true := by simp [hpassed]
      simpa [messages] using mt passed_iff.mpr hnot
    cases hheader : report.header with
    | none => simp [renderText, hpassed, hheader, hfindings, Xor]
    | some header => simp [renderText, hpassed, hheader, Xor]

end Made

/-- A report is its three streams. It has the findings and the documents of its steps in
their order, and the last of their headers, so steps that mix the same streams in another
way make the same report, with the same text, the same JSON object and the same code. It
passes exactly if no step adds a finding, and it fails for good. -/
theorem made_of_three_streams (gate successLine : String) (steps : List Step) :
    let report := made gate successLine steps
    report =
        { gate, successLine
          header := (steps.filterMap Step.header?).getLast?
          findings := steps.filterMap Step.finding?
          documents := (steps.filterMap Step.document?).map digest } ∧
      (∀ others, SameStreams others steps →
        let other := made gate successLine others
        other = report ∧ other.renderText = report.renderText ∧
          Output.reportText other = Output.reportText report ∧
          other.json = report.json ∧ other.exitCode = report.exitCode) ∧
      (report.passed = true ↔ ∀ violation message, .fail violation message ∉ steps) ∧
      Xor (report.renderText.stdout ≠ []) (report.renderText.stderr ≠ []) ∧
      (report.passed = false →
        ∀ later, (made gate successLine (steps ++ later)).passed = false) := by
  intro report
  refine ⟨made_eq gate successLine steps, ?_, passed_made_iff, renderText_one_output _,
    failed_made_append⟩
  intro others hsame other
  have hother : other = report := hsame.made_eq_made gate successLine
  rw [hother]
  exact ⟨rfl, rfl, rfl, rfl, rfl⟩

/-- Two files are missing, and a document is looked at in between. -/
def scatteredSteps : List Step :=
  [.fail (.missingArtifact "a.md") "a.md", .header "failed:", .record ⟨"c.md", "abc"⟩,
    .fail (.missingArtifact "b.md") "b.md", .header "missing files:"]

/-- The same findings, document and headers, each on their own. -/
def sortedSteps : List Step :=
  [.header "failed:", .header "missing files:", .record ⟨"c.md", "abc"⟩,
    .fail (.missingArtifact "a.md") "a.md", .fail (.missingArtifact "b.md") "b.md"]

/-- Both ways make one report. It fails, also after another header and document. -/
theorem made_of_scattered_streams :
    SameStreams sortedSteps scatteredSteps ∧
      made "freeze" "passed" sortedSteps = made "freeze" "passed" scatteredSteps ∧
      (made "freeze" "passed" scatteredSteps).passed = false ∧
      (made "freeze" "passed"
        (scatteredSteps ++ [.header "", .record ⟨"d.md", ""⟩])).passed = false := by
  have hsame : SameStreams sortedSteps scatteredSteps := ⟨rfl, rfl, rfl⟩
  have hfailed : (made "freeze" "passed" scatteredSteps).passed = false := rfl
  obtain ⟨_, hothers, _, _, hlater⟩ :=
    made_of_three_streams "freeze" "passed" scatteredSteps
  exact ⟨hsame, (hothers sortedSteps hsame).1, hfailed, hlater hfailed _⟩

end Compliance.Report
