import Compliance.Pipeline

/-!
What a gate prints, as text for people or as one line of JSON. The exit code depends on the outcome alone, never on
the format.
-/

namespace Compliance

inductive Format where
  | text
  | json
  deriving DecidableEq, Repr

/-- An exit code and what is written to the two output streams. -/
structure Emission where
  code : Nat
  stdout : String := ""
  stderr : String := ""
  deriving DecidableEq, Repr

namespace Output

/-- Lines, each with its end. -/
def unlines (lines : List String) : String := String.join (lines.map (· ++ "\n"))

/-- The first `shown` names of a list, and how many more there are. -/
def failureSummary (names : List String) (shown : Nat) : String :=
  let head := ", ".intercalate (names.take shown)
  match names.length - shown with
  | 0 => head
  | hidden => head ++ " (+" ++ toString hidden ++ " more)"

/-- The object for a gate that an error stopped. -/
def errorJson (gate : String) (error : GateError) : Json :=
  .ofMembers
    [("gate", .string gate),
     ("passed", .boolean false),
     ("error", .ofMembers [("kind", .string error.kind), ("message", .string error.message)])]

def reportText (report : Report) : Emission :=
  let rendered := report.renderText
  ⟨report.exitCode, unlines rendered.stdout, unlines rendered.stderr⟩

/-- What is written for the result of a gate. -/
def emit (gate : String) (result : Except GateError Report) (format : Format) : Emission :=
  match result, format with
  | .ok report, .text => reportText report
  | .ok report, .json => { code := report.exitCode, stdout := unlines [report.json.text] }
  | .error error, .text => { code := 1, stderr := unlines [error.message] }
  | .error error, .json => { code := 1, stdout := unlines [(errorJson gate error).text] }

end Output

end Compliance
