import Compliance.Proofs.OutcomeRecords

/-!
What a report is in text. A pass is its success line on the standard output; a
failure is a line for each finding on the standard error, below the header if
there is one. A reader who counts lines finds as many as that exactly when no
message runs over the end of its line.
-/

namespace Compliance

/-- A text that does not run over the end of a line. -/
def SingleLine (text : String) : Prop := '\n' ∉ text.toList

instance (text : String) : Decidable (SingleLine text) :=
  inferInstanceAs (Decidable (_ ∉ _))

@[simp] theorem singleLine_append {first second : String} :
    SingleLine (first ++ second) ↔ SingleLine first ∧ SingleLine second := by
  simp [SingleLine]

namespace Report

/-- What stands around the messages of a report does not break a line. -/
structure IsFramed (report : Report) : Prop where
  successLine : SingleLine report.successLine
  header : ∀ header ∈ report.header, SingleLine header

/-- Nothing in a report breaks a line. -/
structure IsLined (report : Report) : Prop extends report.IsFramed where
  messages : ∀ message ∈ report.messages, SingleLine message

theorem isLined_fresh {gate successLine : String} (h : SingleLine successLine) :
    (fresh gate successLine).IsLined where
  successLine := h
  header := by simp
  messages := by simp [messages]

theorem IsLined.withHeader {report : Report} (h : report.IsLined) {header : String}
    (hheader : SingleLine header) : (report.withHeader header).IsLined where
  successLine := h.successLine
  header := by simpa using hheader
  messages := h.messages

theorem IsLined.record {report : Report} (h : report.IsLined) (document : Document) :
    (report.record document).IsLined where
  successLine := h.successLine
  header := h.header
  messages := h.messages

theorem IsLined.fail {report : Report} (h : report.IsLined) (violation : Violation)
    {message : String} (hmessage : SingleLine message) :
    (report.fail violation message).IsLined where
  successLine := h.successLine
  header := h.header
  messages := by
    have hmessages :
        (report.fail violation message).messages = report.messages ++ [message] := by
      simp [Report.messages]
    rw [hmessages]
    exact List.forall_mem_append.mpr ⟨h.messages, by simpa using hmessage⟩

theorem IsLined.failAll {report : Report} (h : report.IsLined)
    {line : Violation → String} {violations : List Violation}
    (hlines : ∀ violation ∈ violations, SingleLine (line violation)) :
    (report.failAll line violations).IsLined := by
  induction violations generalizing report with
  | nil => exact h
  | cons violation rest ih =>
    obtain ⟨hline, hrest⟩ := List.forall_mem_cons.mp hlines
    exact ih (h.fail violation hline) hrest

end Report

namespace Output

/-- Every line has an end of its own, besides the line feeds inside of it. -/
theorem count_unlines (lines : List String) :
    (unlines lines).toList.count '\n' =
      lines.length + (lines.flatMap String.toList).count '\n' := by
  induction lines with
  | nil => rfl
  | cons line rest ih =>
    have hcons : unlines (line :: rest) = line ++ "\n" ++ unlines rest := by
      simp [unlines]
    have hend : "\n".toList.count '\n' = 1 := by decide
    rw [hcons, String.toList_append, String.toList_append, List.count_append,
      List.count_append, hend, ih, List.length_cons, List.flatMap_cons,
      List.count_append]
    omega

theorem count_flatMap_eq_zero_iff {lines : List String} :
    (lines.flatMap String.toList).count '\n' = 0 ↔ ∀ line ∈ lines, SingleLine line := by
  simp [List.count_eq_zero, SingleLine]

/-- The line feeds of a text count its lines. -/
theorem count_of_prints {text : String} {lines : List String} (h : Prints text lines) :
    text.toList.count '\n' = lines.length := by
  rw [h.1, count_unlines, count_flatMap_eq_zero_iff.mpr h.2, Nat.add_zero]

/-- A text that was written as lines can be taken apart into that many lines only
if none of them was broken. -/
theorem singleLine_of_prints {lines parts : List String}
    (h : Prints (unlines lines) parts) (hlength : parts.length = lines.length) :
    ∀ line ∈ lines, SingleLine line := by
  have htotal := count_of_prints h
  rw [count_unlines, hlength] at htotal
  exact count_flatMap_eq_zero_iff.mp (by omega)

/-- What stands in front of a detail below a header. -/
def detailMark (header : Option String) : String :=
  if header.isSome then "- " else ""

/-- The lines of a failure: the header, if there is one, and the details. -/
def failureLines (header : Option String) (messages : List String) : List String :=
  header.toList ++ messages.map (detailMark header ++ ·)

theorem reportText_of_passed {report : Report} (h : report.passed = true) :
    reportText report = ⟨0, report.successLine ++ "\n", ""⟩ := by
  simp [reportText, Report.renderText, Report.exitCode, h, unlines]

theorem reportText_of_failed {report : Report} (h : report.passed = false) :
    reportText report =
      ⟨1, "", unlines (failureLines report.header report.messages)⟩ := by
  cases hheader : report.header <;>
    simp [reportText, Report.renderText, Report.exitCode, h, hheader, unlines,
      failureLines, detailMark]

/-- What is printed for a report can be read line by line: a pass is one line, a
failure one line for each finding and one more for the header, below which the
others are marked. -/
structure LineOriented (report : Report) (emission : Emission) : Prop where
  onPass : report.passed = true →
    emission.stderr = "" ∧ ∃ line, Prints emission.stdout [line]
  onFailure : report.passed = false →
    emission.stdout = "" ∧ ∃ details, details.length = report.findings.length ∧
      (report.header.isSome = true → ∀ detail ∈ details,
        "- ".toList <+: detail.toList) ∧
      Prints emission.stderr (report.header.toList ++ details)

theorem singleLine_failureLines_iff {header : Option String} {messages : List String}
    (h : ∀ line ∈ header, SingleLine line) :
    (∀ line ∈ failureLines header messages, SingleLine line) ↔
      ∀ message ∈ messages, SingleLine message := by
  have hmark : SingleLine (detailMark header) := by
    unfold detailMark
    split <;> decide
  simp only [failureLines, List.mem_append, List.mem_map, Option.mem_toList, or_imp,
    forall_and, forall_exists_index, and_imp, forall_apply_eq_imp_iff₂,
    singleLine_append, hmark, true_and]
  exact and_iff_right h

/-- A framed report is printed line by line exactly if none of its messages breaks
a line. -/
theorem lineOriented_iff {report : Report} (h : report.IsFramed) :
    LineOriented report (reportText report) ↔
      ∀ message ∈ report.messages, SingleLine message := by
  cases hpassed : report.passed with
  | true =>
    have hnone : report.messages = [] := by
      simp [Report.messages, Report.passed_iff.mp hpassed]
    have horiented : LineOriented report (reportText report) := by
      rw [reportText_of_passed hpassed]
      constructor
      · intro _
        refine ⟨rfl, report.successLine, by simp [unlines], ?_⟩
        exact List.forall_mem_singleton.mpr h.successLine
      · intro hfailed
        rw [hpassed] at hfailed
        cases hfailed
    simp [hnone, horiented]
  | false =>
    rw [reportText_of_failed hpassed, ← singleLine_failureLines_iff h.header]
    constructor
    · intro horiented
      obtain ⟨_, details, hlength, _, hprints⟩ := horiented.onFailure hpassed
      apply singleLine_of_prints hprints
      simp [failureLines, hlength, Report.messages]
    · intro hlines
      constructor
      · intro hpass
        rw [hpassed] at hpass
        cases hpass
      · intro _
        refine ⟨rfl, report.messages.map (detailMark report.header ++ ·), ?_, ?_, rfl,
          hlines⟩
        · simp [Report.messages]
        · intro hheader detail hdetail
          obtain ⟨message, _, rfl⟩ := List.mem_map.mp hdetail
          simp [detailMark, hheader]

end Output

end Compliance
