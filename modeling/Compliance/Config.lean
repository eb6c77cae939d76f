import Compliance.NameSet

/-!
What a repository is checked for. Manifests, expected sets and snippets are data: a configuration has one part for
each of the fixed gates and one entry for each family of control evidence.
-/

namespace Compliance

/-- Paths that a frozen release has to hold. -/
structure FreezeConfig where
  description : String := ""
  requiredPaths : List String
  deriving DecidableEq

/-- The ledger of decisions that need sign-off. -/
structure ApprovalsConfig where
  description : String := ""
  ledger : String
  deriving DecidableEq

namespace SchemaConfig

def defaultMissingMessage : String := "canonical schema missing"

def defaultEnumField : String := "event_type"

def defaultEnumPointer : String := "/properties/event_type/enum"

end SchemaConfig

/-- What the event schema has to declare. -/
structure SchemaConfig where
  description : String := ""
  path : String
  missingMessage : String := SchemaConfig.defaultMissingMessage
  requiredFields : NameSet
  /-- The name of the enumeration in diagnostics. -/
  enumField : String := SchemaConfig.defaultEnumField
  /-- Where the enumeration stands in the schema, as a JSON pointer. -/
  enumPointer : String := SchemaConfig.defaultEnumPointer
  eventTypes : NameSet
  deriving DecidableEq

def ForbiddenMarker.defaultLabel : String := "explicit FAIL status"

/-- A text that no document of a family may hold, and what its presence is called. -/
structure ForbiddenMarker where
  text : String
  label : String := ForbiddenMarker.defaultLabel
  deriving DecidableEq

structure EvidenceDocument where
  path : String
  snippets : List String
  deriving DecidableEq

/-- The documents that attest the controls of one family. -/
structure EvidenceConfig where
  family : String
  description : String := ""
  forbiddenMarker : Option ForbiddenMarker := none
  documents : List EvidenceDocument
  deriving DecidableEq

structure Config where
  freeze : FreezeConfig
  approvals : ApprovalsConfig
  schema : SchemaConfig
  evidence : List EvidenceConfig := []
  deriving DecidableEq

/-- The first entry of a family. -/
def Config.family? (config : Config) (family : String) : Option EvidenceConfig :=
  config.evidence.find? (·.family == family)

end Compliance
