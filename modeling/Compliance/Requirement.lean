import Compliance.Document
import Compliance.Json.Pointer
import Compliance.Violation

/-!
What has to hold for one document. Evaluating a requirement against a source yields the violations found, or the
error that kept the document from being understood. Whether a gate stops at the first violation or gathers them all
is up to the gate.
-/

namespace Compliance

inductive Requirement where
  | existence (path : String)
  | fieldCoverage (path : String) (expected : NameSet)
  | enumEquality (path pointer field : String) (expected : NameSet)
  | snippetPresence (path : String) (snippets : List String)
  | snippetAbsence (path marker label : String)
  deriving DecidableEq

namespace Requirement

def path : Requirement → String
  | existence path => path
  | fieldCoverage path _ => path
  | enumEquality path _ _ _ => path
  | snippetPresence path _ => path
  | snippetAbsence path _ _ => path

/-- Where a schema lists the fields that a value has to have. -/
def requiredPointer : String := "/required"

/-- The expected fields that a schema does not list; more fields than expected are fine. -/
def checkFieldCoverage (path : String) (value : Json) (expected : NameSet) : List Violation :=
  let missing := expected.difference (value.stringSet requiredPointer)
  if missing.isEmpty then [] else [.incompleteFields path missing.names]

/-- The enumeration has to be the expected set, no more and no less. -/
def checkEnumEquality (path pointer field : String) (value : Json) (expected : NameSet) :
    List Violation :=
  let actual := value.stringSet pointer
  if actual = expected then [] else [.enumMismatch path field expected.names actual.names]

/-- Every snippet that is missing, in the order given. -/
def checkSnippetsPresent (document : Document) (snippets : List String) : List Violation :=
  (snippets.filter fun snippet => !document.contains snippet).map fun snippet =>
    .missingSnippet document.path snippet

def checkMarkerAbsent (document : Document) (marker label : String) : List Violation :=
  if document.contains marker then [.forbiddenMarkerPresent document.path marker label] else []

/-- Evaluation against a document that has been loaded already. -/
def evaluateDocument (requirement : Requirement) (document : Document) :
    Except GateError (List Violation) :=
  match requirement with
  | existence _ => .ok []
  | fieldCoverage _ expected =>
    document.object.map fun value => checkFieldCoverage document.path value expected
  | enumEquality _ pointer field expected =>
    document.object.map fun value => checkEnumEquality document.path pointer field value expected
  | snippetPresence _ snippets => .ok (checkSnippetsPresent document snippets)
  | snippetAbsence _ marker label => .ok (checkMarkerAbsent document marker label)

def checkExistence (source : Source) (path : String) : List Violation :=
  if source.has path then [] else [.missingArtifact path]

/-- Evaluation against a source. A requirement on the content of an absent document yields that the document is
missing. -/
def evaluate (requirement : Requirement) (source : Source) : Except GateError (List Violation) :=
  match requirement with
  | existence path => .ok (checkExistence source path)
  | content =>
    match source.load content.path with
    | .error error => .error error
    | .ok none => .ok [.missingArtifact content.path]
    | .ok (some document) => content.evaluateDocument document

/-- The first violation of several requirements on one document, taken in order. -/
def firstViolation (document : Document) : List Requirement → Except GateError (Option Violation)
  | [] => .ok none
  | requirement :: rest =>
    match requirement.evaluateDocument document with
    | .error error => .error error
    | .ok (violation :: _) => .ok (some violation)
    | .ok [] => firstViolation document rest

end Requirement

end Compliance
