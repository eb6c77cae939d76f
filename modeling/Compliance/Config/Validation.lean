import Compliance.Config
import Compliance.Config.Fault
import Compliance.Text.Blank

/-!
The rules of a configuration, checked in a fixed order: the first one that is broken is reported. Families are
checked in their order, each for a repeated name, for its documents and for their snippets.
-/

namespace Compliance.Config

/-- A text with nothing but blanks in it. -/
def isBlankText (text : String) : Bool := text.toList.all Text.isBlank

/-- The rules of the families, given the names of those already checked. -/
def validateFamilies (seen : List String) : List EvidenceConfig → Except Fault Unit
  | [] => .ok ()
  | family :: rest =>
    if seen.contains family.family then .error (.repeatedFamily family.family)
    else if family.documents.isEmpty then .error (.noDocuments family.family)
    else match family.documents.find? (·.snippets.isEmpty) with
      | some document => .error (.noSnippets family.family document.path)
      | none => validateFamilies (family.family :: seen) rest

def validate (config : Config) : Except Fault Unit :=
  if config.freeze.requiredPaths.isEmpty then .error .noRequiredPaths
  else if isBlankText config.approvals.ledger then .error .noLedger
  else if config.schema.requiredFields.isEmpty then .error .noRequiredFields
  else if config.schema.eventTypes.isEmpty then .error .noEventTypes
  else if config.schema.enumPointer.toList.head? ≠ some '/' then
    .error (.notPointer config.schema.enumPointer)
  else validateFamilies [] config.evidence

end Compliance.Config
