import Compliance.Proofs.ExitStatus
import Compliance.Proofs.TextLines

/-!
Text and JSON tell of one outcome alike. The code is the same in both and agrees
with the verdict in the JSON object; a failure in text is made of the messages in
the object, in their order, and an error in text is the message in the object.
-/

namespace Compliance

namespace Json

/-- The messages of the failures in the object of a report. -/
def failureMessages? (value : Json) : Option (List String) :=
  (value.itemsMember? "failures").bind fun failures =>
    failures.mapM fun failure => failure.textMember? "message"

/-- The message in the object of an error. -/
def errorMessage? (value : Json) : Option String :=
  (value.member? "error").bind fun failure => failure.textMember? "message"

end Json

theorem Finding.textMember?_message (finding : Finding) :
    finding.json.textMember? "message" = some finding.message := by
  have hmember : ("message", Json.string finding.message) ∈
      finding.violation.members ++ [("message", Json.string finding.message)] := by simp
  have hfound : finding.json.member? "message" = some (.string finding.message) :=
    Json.member?_ofMembers_of_mem finding.keys_nodup hmember
  simp [Json.textMember?, hfound, Json.string?]

theorem Report.failureMessages?_json (report : Report) :
    report.json.failureMessages? = some report.messages := by
  have hfailures : report.json.itemsMember? "failures" =
      some (report.findings.map Finding.json) := by
    simp [Report.json, Json.itemsMember?, Json.member?_ofMembers, lookup_cons_eq,
      Json.items?]
  rw [Json.failureMessages?, hfailures, Option.bind_some, messages]
  induction report.findings with
  | nil => rfl
  | cons finding rest ih =>
    simp [finding.textMember?_message, ih]

namespace Output

theorem passed_resultJson_iff (gate : String) (result : Except GateError Report) :
    (resultJson gate result).booleanMember? "passed" = some true ↔ Passes result := by
  cases result with
  | error failure =>
    simp [resultJson, errorJson, Json.booleanMember?, Json.member?_ofMembers,
      lookup_cons_eq, Passes]
  | ok report =>
    simp [resultJson, Report.json, Json.booleanMember?, Json.member?_ofMembers,
      lookup_cons_eq, Passes, Report.passed_iff]

theorem errorMessage?_errorJson (gate : String) (failure : GateError) :
    (errorJson gate failure).errorMessage? = some failure.message := by
  simp [errorJson, Json.errorMessage?, Json.textMember?, Json.member?_ofMembers,
    Json.string?]

/-- What text says of a result whose JSON object is this one. -/
def TextTells (object : Json) (text : Emission) : Except GateError Report → Prop
  | .ok report =>
    (report.passed = true →
      text.stdout = report.successLine ++ "\n" ∧ text.stderr = "") ∧
    (report.passed = false →
      text.stdout = "" ∧ ∃ messages, object.failureMessages? = some messages ∧
        text.stderr = unlines (failureLines report.header messages))
  | .error _ =>
    text.stdout = "" ∧ ∃ message, object.errorMessage? = some message ∧
      text.stderr = message ++ "\n"

theorem textTells_emit (gate : String) (result : Except GateError Report) :
    TextTells (resultJson gate result) (emit gate result .text) result := by
  cases result with
  | error failure =>
    refine ⟨rfl, failure.message, errorMessage?_errorJson gate failure, ?_⟩
    simp [emit, unlines]
  | ok report =>
    constructor
    · intro hpassed
      simp [emit, reportText_of_passed hpassed]
    · intro hfailed
      rw [emit, reportText_of_failed hfailed]
      exact ⟨rfl, report.messages, report.failureMessages?_json, rfl⟩

/-- The two formats tell of one outcome alike, for every report and every error.
The code is zero for a report that passes and one otherwise, whatever the format,
and zero exactly if the object in the JSON line says so. The text is the success
line, the messages in the object, or its error message, each on the stream where it
belongs. -/
theorem formats_agree (gate : String) (result : Except GateError Report) :
    let text := emit gate result .text
    let json := emit gate result .json
    text.code = json.code ∧ (text.code = 0 ∨ text.code = 1) ∧
      (text.code = 0 ↔ ∃ report, result = .ok report ∧ report.passed = true) ∧
      ∃ line object, Prints json.stdout [line] ∧ json.stderr = "" ∧
        Json.read line = .ok object ∧
        (json.code = 0 ↔ object.booleanMember? "passed" = some true) ∧
        TextTells object text result := by
  intro text json
  have htextZero : text.code = 0 ↔ Passes result := code_emit_eq_zero_iff
  have hjsonZero : json.code = 0 ↔ Passes result := code_emit_eq_zero_iff
  have hsame : text.code = 0 ↔ json.code = 0 := htextZero.trans hjsonZero.symm
  have htext : text.code ≤ 1 := code_emit_le_one gate result .text
  have hjson : json.code ≤ 1 := code_emit_le_one gate result .json
  refine ⟨by omega, by omega, ?_, (resultJson gate result).text,
    resultJson gate result, ⟨stdout_emit_json gate result, ?_⟩,
    stderr_emit_json gate result, read_resultJson gate result, ?_,
    textTells_emit gate result⟩
  · simpa only [Passes, ← Report.passed_iff] using htextZero
  · exact List.forall_mem_singleton.mpr (Json.lineFeed_not_mem_text _)
  · exact hjsonZero.trans (passed_resultJson_iff gate result).symm

end Output

end Compliance
