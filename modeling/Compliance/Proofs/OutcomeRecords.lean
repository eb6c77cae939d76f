import Compliance.Output
import Compliance.Proofs.CompactText
import Compliance.Proofs.SingleLines

/-!
What the JSON line of a gate holds. The line is read back as an object, and one
decoder recovers from it all that was reported: for a report the gate, the
verdict, the findings and the digests, for an error the gate, its kind and its
message. So two reports with one line agree on all of these.
-/

namespace Compliance

namespace Json

def textMember? (value : Json) (key : String) : Option String :=
  (value.member? key).bind string?

def booleanMember? (value : Json) (key : String) : Option Bool :=
  match value.member? key with
  | some (.boolean truth) => some truth
  | _ => none

def itemsMember? (value : Json) (key : String) : Option (List Json) :=
  (value.member? key).bind items?

def textsMember? (value : Json) (key : String) : Option (List String) :=
  (value.itemsMember? key).bind fun items => items.mapM string?

end Json

def Approval.ofName? (name : String) : Option Approval :=
  if name = "finance" then some .finance
  else if name = "controls" then some .controls
  else none

/-- The violation that an object tells of. Its kind says which members there
are. -/
def Violation.ofJson? (value : Json) : Option Violation := do
  let kind ← value.textMember? "kind"
  if kind = "missing_artifact" then
    return .missingArtifact (← value.textMember? "path")
  else if kind = "incomplete_fields" then
    return .incompleteFields (← value.textMember? "path") (← value.textsMember? "missing")
  else if kind = "enum_mismatch" then
    return .enumMismatch (← value.textMember? "path") (← value.textMember? "field")
      (← value.textsMember? "expected") (← value.textsMember? "actual")
  else if kind = "missing_snippet" then
    return .missingSnippet (← value.textMember? "path") (← value.textMember? "snippet")
  else if kind = "forbidden_marker_present" then
    return .forbiddenMarkerPresent (← value.textMember? "path")
      (← value.textMember? "marker") (← value.textMember? "label")
  else if kind = "approval_missing" then
    return .approvalMissing (← value.textMember? "decision")
      (← Approval.ofName? (← value.textMember? "approval"))
  else none

def Finding.ofJson? (value : Json) : Option Finding := do
  return ⟨← Violation.ofJson? value, ← value.textMember? "message"⟩

def DocumentDigest.ofJson? (value : Json) : Option DocumentDigest := do
  return ⟨← value.textMember? "path", ← value.textMember? "sha256"⟩

/-- All that the JSON line of a gate tells. -/
inductive OutcomeRecord where
  | report (gate : String) (passed : Bool) (findings : List Finding)
      (documents : List DocumentDigest)
  | error (gate kind message : String)
  deriving DecidableEq

namespace OutcomeRecord

/-- What there is to tell of the result of a gate. -/
def ofResult (gate : String) : Except GateError Report → OutcomeRecord
  | .ok made => .report made.gate made.passed made.findings made.documents
  | .error failure => .error gate failure.kind failure.message

/-- The record that an object holds. Only an error has a member of that name. -/
def ofJson? (value : Json) : Option OutcomeRecord :=
  match value.member? "error" with
  | some failure => do
    return .error (← value.textMember? "gate") (← failure.textMember? "kind")
      (← failure.textMember? "message")
  | none => do
    return .report (← value.textMember? "gate") (← value.booleanMember? "passed")
      (← (← value.itemsMember? "failures").mapM Finding.ofJson?)
      (← (← value.itemsMember? "documents").mapM DocumentDigest.ofJson?)

end OutcomeRecord

/-- A list is recovered from its encoding if each of its members is. -/
theorem mapM_comp_eq_some {α β : Type} {encode : α → β} {decode : β → Option α}
    (h : ∀ value, decode (encode value) = some value) (values : List α) :
    values.mapM (decode ∘ encode) = some values := by
  induction values with
  | nil => rfl
  | cons value rest ih => simp [h, ih]

theorem Json.mapM_string? (texts : List String) :
    texts.mapM (Json.string? ∘ Json.string) = some texts := by
  apply mapM_comp_eq_some
  intro text
  rfl

theorem Approval.ofName?_name (approval : Approval) :
    ofName? approval.name = some approval := by
  cases approval <;> decide

/-- The keys of a finding are different, so none of its members hides another. -/
theorem Finding.keys_nodup (finding : Finding) :
    ((finding.violation.members ++ [("message", Json.string finding.message)]).map
      Prod.fst).Nodup := by
  obtain ⟨violation, message⟩ := finding
  cases violation <;> simp [Violation.members, Violation.fields]

/-- An object that has the members of a violation tells of that violation,
whatever else it has. -/
theorem Violation.ofJson?_of_members {violation : Violation} {value : Json}
    (h : ∀ member ∈ violation.members, value.member? member.1 = some member.2) :
    ofJson? value = some violation := by
  cases violation <;>
    simp only [members, kind, fields, List.forall_mem_cons] at h <;>
    simp [ofJson?, Json.textMember?, Json.textsMember?, Json.itemsMember?, h,
      Json.strings, Json.string?, Json.items?, Json.mapM_string?,
      Approval.ofName?_name]

theorem Finding.ofJson?_json (finding : Finding) :
    ofJson? finding.json = some finding := by
  have hmember : ∀ member ∈
      finding.violation.members ++ [("message", Json.string finding.message)],
      finding.json.member? member.1 = some member.2 :=
    fun member hm => Json.member?_ofMembers_of_mem finding.keys_nodup hm
  have hviolation : Violation.ofJson? finding.json = some finding.violation :=
    Violation.ofJson?_of_members fun member hm => hmember member (by simp [hm])
  have hmessage := hmember ("message", Json.string finding.message) (by simp)
  simp [ofJson?, hviolation, Json.textMember?, hmessage, Json.string?]

theorem DocumentDigest.ofJson?_json (digest : DocumentDigest) :
    ofJson? digest.json = some digest := by
  simp [ofJson?, json, Json.textMember?, Json.member?_ofMembers,
    lookup_cons_eq, Json.string?]

namespace OutcomeRecord

theorem ofJson?_reportJson (report : Report) :
    ofJson? report.json =
      some (.report report.gate report.passed report.findings report.documents) := by
  have hfindings := mapM_comp_eq_some Finding.ofJson?_json report.findings
  have hdocuments := mapM_comp_eq_some DocumentDigest.ofJson?_json report.documents
  simp [ofJson?, Report.json, Json.textMember?, Json.booleanMember?,
    Json.itemsMember?, Json.member?_ofMembers, lookup_cons_eq, Json.string?,
    Json.items?, hfindings, hdocuments]

theorem ofJson?_errorJson (gate : String) (failure : GateError) :
    ofJson? (Output.errorJson gate failure) =
      some (.error gate failure.kind failure.message) := by
  simp [ofJson?, Output.errorJson, Json.textMember?, Json.member?_ofMembers,
    lookup_cons_eq, Json.string?]

end OutcomeRecord

theorem Violation.members_readable (depth : Nat) (violation : Violation) :
    ∀ member ∈ violation.members, Json.Readable (depth + 1) member.2 := by
  cases violation <;>
    simp [members, fields, Json.Readable.string, Json.readable_strings]

theorem Finding.json_readable (depth : Nat) (finding : Finding) :
    Json.Readable (depth + 2) finding.json := by
  apply Json.readable_ofMembers
  intro member hm
  rcases List.mem_append.mp hm with hm | hm
  · exact finding.violation.members_readable depth member hm
  · rw [List.mem_singleton.mp hm]
    exact .string _ _

theorem DocumentDigest.json_readable (depth : Nat) (digest : DocumentDigest) :
    Json.Readable (depth + 1) digest.json := by
  apply Json.readable_ofMembers
  simp [Json.Readable.string]

theorem Report.json_readable (depth : Nat) (report : Report) :
    Json.Readable (depth + 4) report.json := by
  have hfindings : Json.Readable (depth + 3)
      (.array (report.findings.map Finding.json)) := by
    apply Json.Readable.array
    intro item hm
    obtain ⟨finding, _, rfl⟩ := List.mem_map.mp hm
    exact finding.json_readable depth
  have hdocuments : Json.Readable (depth + 3)
      (.array (report.documents.map DocumentDigest.json)) := by
    apply Json.Readable.array
    intro item hm
    obtain ⟨digest, _, rfl⟩ := List.mem_map.mp hm
    exact digest.json_readable (depth + 1)
  apply Json.readable_ofMembers
  simp [Json.Readable.string, Json.Readable.boolean, hfindings, hdocuments]

theorem Output.errorJson_readable (depth : Nat) (gate : String) (failure : GateError) :
    Json.Readable (depth + 2) (errorJson gate failure) := by
  have hcause : Json.Readable (depth + 1) (.ofMembers
      [("kind", .string failure.kind), ("message", .string failure.message)]) := by
    apply Json.readable_ofMembers
    simp [Json.Readable.string]
  apply Json.readable_ofMembers
  simp [Json.Readable.string, Json.Readable.boolean, hcause]

namespace Output

/-- A text consists of these lines and of nothing else: none of them is broken
in two. -/
def Prints (text : String) (lines : List String) : Prop :=
  text = unlines lines ∧ ∀ line ∈ lines, '\n' ∉ line.toList

/-- The object that is printed for the result of a gate. -/
def resultJson (gate : String) : Except GateError Report → Json
  | .ok report => report.json
  | .error failure => errorJson gate failure

theorem stdout_emit_json (gate : String) (result : Except GateError Report) :
    (emit gate result .json).stdout = unlines [(resultJson gate result).text] := by
  cases result <;> rfl

theorem stderr_emit_json (gate : String) (result : Except GateError Report) :
    (emit gate result .json).stderr = "" := by
  cases result <;> rfl

theorem read_resultJson (gate : String) (result : Except GateError Report) :
    Json.read (resultJson gate result).text = .ok (resultJson gate result) := by
  apply Json.read_text
  cases result with
  | ok report => exact report.json_readable 123
  | error failure => exact errorJson_readable 125 gate failure

theorem ofJson?_resultJson (gate : String) (result : Except GateError Report) :
    OutcomeRecord.ofJson? (resultJson gate result) =
      some (.ofResult gate result) := by
  cases result with
  | ok report => exact OutcomeRecord.ofJson?_reportJson report
  | error failure => exact OutcomeRecord.ofJson?_errorJson gate failure

/-- What is recovered from a line is determined by the line. -/
theorem ofResult_eq_of_stdout_eq {gate other : String}
    {result second : Except GateError Report}
    (h : (emit gate result .json).stdout = (emit other second .json).stdout) :
    OutcomeRecord.ofResult gate result = .ofResult other second := by
  rw [stdout_emit_json, stdout_emit_json] at h
  have htext : (resultJson gate result).text = (resultJson other second).text := by
    simpa [unlines] using h
  have hread := read_resultJson gate result
  rw [htext, read_resultJson] at hread
  have hsame : resultJson other second = resultJson gate result :=
    Except.ok.inj hread
  have hrecord := ofJson?_resultJson gate result
  rw [← hsame, ofJson?_resultJson] at hrecord
  exact (Option.some.inj hrecord).symm

/-- In JSON the result of a gate is one line on the standard output and nothing
on the standard error. Reading the line back gives an object from which the
whole record is recovered, so reports that print the same line agree on their
gate, their findings and their documents. -/
theorem emit_json_loses_nothing (gate : String) (result : Except GateError Report) :
    (∃ line value,
      Prints (emit gate result .json).stdout [line] ∧
        Json.read line = .ok value ∧ value.isObject = true ∧
        OutcomeRecord.ofJson? value = some (.ofResult gate result)) ∧
      (emit gate result .json).stderr = "" ∧
      ∀ (other : String) (first second : Report),
        (emit gate (.ok first) .json).stdout = (emit other (.ok second) .json).stdout →
        first.gate = second.gate ∧ first.findings = second.findings ∧
          first.documents = second.documents := by
  refine ⟨⟨(resultJson gate result).text, resultJson gate result, ⟨?_, ?_⟩, ?_, ?_, ?_⟩,
    stderr_emit_json gate result, ?_⟩
  · exact stdout_emit_json gate result
  · intro line hm
    rw [List.mem_singleton.mp hm]
    exact Json.lineFeed_not_mem_text _
  · exact read_resultJson gate result
  · cases result <;> rfl
  · exact ofJson?_resultJson gate result
  · intro other first second hstdout
    have hrecord := ofResult_eq_of_stdout_eq hstdout
    simp only [OutcomeRecord.ofResult, OutcomeRecord.report.injEq] at hrecord
    exact ⟨hrecord.1, hrecord.2.2.1, hrecord.2.2.2⟩

/-- A finding whose text runs over two lines. -/
def brokenReport : Report :=
  (Report.fresh "freeze" "passed").fail (.missingArtifact "a\nb\"") "a\nb\""

/-- A header is no part of the record: with it and without it the same line is
printed, and the line tells the findings either way. -/
theorem emit_json_of_broken_report :
    (emit "freeze" (.ok brokenReport) .json).stdout =
        (emit "freeze" (.ok (brokenReport.withHeader "missing")) .json).stdout ∧
      brokenReport.findings = (brokenReport.withHeader "missing").findings ∧
      ∃ line value,
        Prints (emit "freeze" (.ok brokenReport) .json).stdout [line] ∧
          Json.read line = .ok value ∧
          OutcomeRecord.ofJson? value =
            some (.report "freeze" false
              [⟨.missingArtifact "a\nb\"", "a\nb\""⟩] []) := by
  have hstdout : (emit "freeze" (.ok brokenReport) .json).stdout =
      (emit "freeze" (.ok (brokenReport.withHeader "missing")) .json).stdout := rfl
  obtain ⟨⟨line, value, hprints, hread, _, hrecord⟩, _, hagree⟩ :=
    emit_json_loses_nothing "freeze" (.ok brokenReport)
  have hfindings := (hagree "freeze" brokenReport _ hstdout).2.1
  exact ⟨hstdout, hfindings, line, value, hprints, hread, hrecord⟩

end Output

end Compliance
