import Compliance.Json.Value
import Compliance.Text.Quoted

/-!
Findings against a document. The message of a violation is the line that people and log scrapers look for; its JSON
form carries the kind and all that the violation is about.
-/

namespace Compliance

/-- Who has to sign a decision off. -/
inductive Approval where
  | finance
  | controls
  deriving DecidableEq, Repr

def Approval.name : Approval → String
  | finance => "finance"
  | controls => "controls"

inductive Violation where
  | missingArtifact (path : String)
  | incompleteFields (path : String) (missing : List String)
  | enumMismatch (path field : String) (expected actual : List String)
  | missingSnippet (path snippet : String)
  | forbiddenMarkerPresent (path marker label : String)
  | approvalMissing (decision : String) (approval : Approval)
  deriving DecidableEq, Repr

namespace Violation

def kind : Violation → String
  | missingArtifact .. => "missing_artifact"
  | incompleteFields .. => "incomplete_fields"
  | enumMismatch .. => "enum_mismatch"
  | missingSnippet .. => "missing_snippet"
  | forbiddenMarkerPresent .. => "forbidden_marker_present"
  | approvalMissing .. => "approval_missing"

def message : Violation → String
  | missingArtifact path => "missing " ++ path
  | incompleteFields _ missing => "schema required fields missing: " ++ Text.quotedList missing
  | enumMismatch _ field expected actual =>
    field ++ " enum mismatch: expected " ++ Text.quotedList expected ++ ", got " ++ Text.quotedList actual
  | missingSnippet path snippet => "missing required snippet '" ++ snippet ++ "' in " ++ path
  | forbiddenMarkerPresent path _ label => label ++ " detected in " ++ path
  | approvalMissing decision approval => decision ++ ": " ++ approval.name ++ " approval missing"

/-- What a violation is about, by name. -/
def fields : Violation → List (String × Json)
  | missingArtifact path => [("path", .string path)]
  | incompleteFields path missing => [("path", .string path), ("missing", .strings missing)]
  | enumMismatch path field expected actual =>
    [("path", .string path), ("field", .string field), ("expected", .strings expected),
     ("actual", .strings actual)]
  | missingSnippet path snippet => [("path", .string path), ("snippet", .string snippet)]
  | forbiddenMarkerPresent path marker label =>
    [("path", .string path), ("marker", .string marker), ("label", .string label)]
  | approvalMissing decision approval =>
    [("decision", .string decision), ("approval", .string approval.name)]

/-- The members of a violation in JSON. -/
def members (violation : Violation) : List (String × Json) :=
  ("kind", .string violation.kind) :: violation.fields

end Violation

end Compliance
