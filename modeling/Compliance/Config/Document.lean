import Compliance.Config.Validation
import Compliance.Toml.Reader
import Compliance.Toml.Record

/-!
Configurations as TOML documents. Each part is a record whose fields are declared here once, with the decoders
that read them; an unknown key is refused at every level.
-/

namespace Compliance

open Toml

def textList : Decoder (List String) := Decoder.listOf Decoder.text

/-- A set may be written with repetitions and in any order. -/
def NameSet.decode : Decoder NameSet := fun value => (textList value).map NameSet.ofList

namespace FreezeConfig

def record : RecordType :=
  ⟨"FreezeConfig", [.of "description" Decoder.text, .of "required_paths" textList]⟩

def decode : Decoder FreezeConfig := fun value => do
  let fields ← record.open? value
  return {
    description := ← fields.optional "description" "" Decoder.text
    requiredPaths := ← fields.required "required_paths" textList }

end FreezeConfig

namespace ApprovalsConfig

def record : RecordType :=
  ⟨"ApprovalsConfig", [.of "description" Decoder.text, .of "ledger" Decoder.text]⟩

def decode : Decoder ApprovalsConfig := fun value => do
  let fields ← record.open? value
  return {
    description := ← fields.optional "description" "" Decoder.text
    ledger := ← fields.required "ledger" Decoder.text }

end ApprovalsConfig

namespace SchemaConfig

def record : RecordType :=
  ⟨"SchemaConfig",
    [.of "description" Decoder.text, .of "path" Decoder.text, .of "missing_message" Decoder.text,
     .of "required_fields" NameSet.decode, .of "enum_field" Decoder.text,
     .of "enum_pointer" Decoder.text, .of "event_types" NameSet.decode]⟩

def decode : Decoder SchemaConfig := fun value => do
  let fields ← record.open? value
  return {
    description := ← fields.optional "description" "" Decoder.text
    path := ← fields.required "path" Decoder.text
    missingMessage := ← fields.optional "missing_message" defaultMissingMessage Decoder.text
    requiredFields := ← fields.required "required_fields" NameSet.decode
    enumField := ← fields.optional "enum_field" defaultEnumField Decoder.text
    enumPointer := ← fields.optional "enum_pointer" defaultEnumPointer Decoder.text
    eventTypes := ← fields.required "event_types" NameSet.decode }

end SchemaConfig

namespace ForbiddenMarker

def record : RecordType :=
  ⟨"ForbiddenMarker", [.of "text" Decoder.text, .of "label" Decoder.text]⟩

def decode : Decoder ForbiddenMarker := fun value => do
  let fields ← record.open? value
  return {
    text := ← fields.required "text" Decoder.text
    label := ← fields.optional "label" defaultLabel Decoder.text }

end ForbiddenMarker

namespace EvidenceDocument

def record : RecordType :=
  ⟨"EvidenceDocument", [.of "path" Decoder.text, .of "snippets" textList]⟩

def decode : Decoder EvidenceDocument := fun value => do
  let fields ← record.open? value
  return {
    path := ← fields.required "path" Decoder.text
    snippets := ← fields.required "snippets" textList }

end EvidenceDocument

namespace EvidenceConfig

def decodeMarker : Decoder (Option ForbiddenMarker) := fun value =>
  (ForbiddenMarker.decode value).map some

def decodeDocuments : Decoder (List EvidenceDocument) := Decoder.listOf EvidenceDocument.decode

def record : RecordType :=
  ⟨"EvidenceConfig",
    [.of "family" Decoder.text, .of "description" Decoder.text, .of "forbidden_marker" decodeMarker,
     .of "documents" decodeDocuments]⟩

def decode : Decoder EvidenceConfig := fun value => do
  let fields ← record.open? value
  return {
    family := ← fields.required "family" Decoder.text
    description := ← fields.optional "description" "" Decoder.text
    forbiddenMarker := ← fields.optional "forbidden_marker" none decodeMarker
    documents := ← fields.required "documents" decodeDocuments }

end EvidenceConfig

namespace Config

def decodeFamilies : Decoder (List EvidenceConfig) := Decoder.listOf EvidenceConfig.decode

def record : RecordType :=
  ⟨"GatesConfig",
    [.of "freeze" FreezeConfig.decode, .of "approvals" ApprovalsConfig.decode,
     .of "schema" SchemaConfig.decode, .of "evidence" decodeFamilies]⟩

/-- The configuration that a TOML value spells, whether or not it keeps the rules. -/
def decode : Decoder Config := fun value => do
  let fields ← record.open? value
  return {
    freeze := ← fields.required "freeze" FreezeConfig.decode
    approvals := ← fields.required "approvals" ApprovalsConfig.decode
    schema := ← fields.required "schema" SchemaConfig.decode
    evidence := ← fields.optional "evidence" [] decodeFamilies }

/-- The configuration that a TOML value spells, if it keeps the rules. The document is the text that the value
was read from, for messages. -/
def ofToml (document : String) (value : Toml) : Except Fault Config := do
  let config ← (decode value).mapError (Fault.shape document)
  config.validate
  return config

/-- The configuration that a document holds. -/
def ofText (document : String) : Except Fault Config :=
  match Toml.read? document with
  | none => .error .unreadable
  | some value => ofToml document value

end Config

end Compliance
