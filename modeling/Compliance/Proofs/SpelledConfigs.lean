import Compliance.Proofs.ExitStatus
import Compliance.Proofs.SpelledValues

/-!
Which TOML values spell a configuration. All of them are read as that
configuration, and none of them is read any more once a key that is not known
stands in one of its tables.
-/

namespace Compliance

open Toml

theorem decodes_textList : Decodes textList (SpellsList SpellsText) :=
  decodes_text.list

namespace FreezeConfig

def keys : List String := ["description", "required_paths"]

inductive Spells (config : FreezeConfig) : Toml → Prop
  | table {span : Span} {members : List (Key × Toml)} (hkeys : HasKeys keys members)
    (hdescription : Gives members "description" (some "") SpellsText config.description)
    (hpaths : Gives members "required_paths" none (SpellsList SpellsText)
      config.requiredPaths) : Spells config (.table span members)

def toToml (config : FreezeConfig) : Toml :=
  .ofMembers [("description", .ofText config.description),
    ("required_paths", .ofList .ofText config.requiredPaths)]

theorem spells_toToml (config : FreezeConfig) : config.Spells config.toToml := by
  refine .table ⟨?_, ?_⟩ ?_ ?_
  · simp [valuesOf]
  · simp [keys]
  · exact spellsText_ofText _
  · exact spellsList_ofList spellsText_ofText _

theorem reads : record.Reads decode Spells := by
  refine RecordType.reads_of_open (fun _ => rfl) ?_
  rintro config _ ⟨hkeys, hdescription, hpaths⟩
  refine ⟨_, _, rfl, hkeys, ?_, ?_⟩
  · simp only [record, List.forall_mem_cons]
    exact ⟨Field.passes_of_gives decodes_text hkeys hdescription,
      Field.passes_of_gives decodes_textList hkeys hpaths, by simp⟩
  · rw [RecordType.optional_tableRecord decodes_text hdescription,
      RecordType.required_tableRecord decodes_textList hpaths]
    rfl

end FreezeConfig

namespace ApprovalsConfig

def keys : List String := ["description", "ledger"]

inductive Spells (config : ApprovalsConfig) : Toml → Prop
  | table {span : Span} {members : List (Key × Toml)} (hkeys : HasKeys keys members)
    (hdescription : Gives members "description" (some "") SpellsText config.description)
    (hledger : Gives members "ledger" none SpellsText config.ledger) :
    Spells config (.table span members)

def toToml (config : ApprovalsConfig) : Toml :=
  .ofMembers [("description", .ofText config.description),
    ("ledger", .ofText config.ledger)]

theorem spells_toToml (config : ApprovalsConfig) : config.Spells config.toToml := by
  refine .table ⟨?_, ?_⟩ ?_ ?_
  · simp [valuesOf]
  · simp [keys]
  · exact spellsText_ofText _
  · exact spellsText_ofText _

theorem reads : record.Reads decode Spells := by
  refine RecordType.reads_of_open (fun _ => rfl) ?_
  rintro config _ ⟨hkeys, hdescription, hledger⟩
  refine ⟨_, _, rfl, hkeys, ?_, ?_⟩
  · simp only [record, List.forall_mem_cons]
    exact ⟨Field.passes_of_gives decodes_text hkeys hdescription,
      Field.passes_of_gives decodes_text hkeys hledger, by simp⟩
  · rw [RecordType.optional_tableRecord decodes_text hdescription,
      RecordType.required_tableRecord decodes_text hledger]
    rfl

end ApprovalsConfig

namespace SchemaConfig

def keys : List String :=
  ["description", "path", "missing_message", "required_fields", "enum_field",
    "enum_pointer", "event_types"]

inductive Spells (config : SchemaConfig) : Toml → Prop
  | table {span : Span} {members : List (Key × Toml)} (hkeys : HasKeys keys members)
    (hdescription : Gives members "description" (some "") SpellsText config.description)
    (hpath : Gives members "path" none SpellsText config.path)
    (hmessage : Gives members "missing_message" (some "canonical schema missing")
      SpellsText config.missingMessage)
    (hfields : Gives members "required_fields" none SpellsSet config.requiredFields)
    (henum : Gives members "enum_field" (some "event_type") SpellsText config.enumField)
    (hpointer : Gives members "enum_pointer" (some "/properties/event_type/enum")
      SpellsText config.enumPointer)
    (htypes : Gives members "event_types" none SpellsSet config.eventTypes) :
    Spells config (.table span members)

def toToml (config : SchemaConfig) : Toml :=
  .ofMembers [("description", .ofText config.description),
    ("path", .ofText config.path),
    ("missing_message", .ofText config.missingMessage),
    ("required_fields", .ofList .ofText config.requiredFields.names),
    ("enum_field", .ofText config.enumField),
    ("enum_pointer", .ofText config.enumPointer),
    ("event_types", .ofList .ofText config.eventTypes.names)]

theorem spells_toToml (config : SchemaConfig) : config.Spells config.toToml := by
  refine .table ⟨?_, ?_⟩ ?_ ?_ ?_ ?_ ?_ ?_ ?_
  · simp [valuesOf]
  · simp [keys]
  · exact spellsText_ofText _
  · exact spellsText_ofText _
  · exact spellsText_ofText _
  · exact spellsSet_ofList _
  · exact spellsText_ofText _
  · exact spellsText_ofText _
  · exact spellsSet_ofList _

theorem reads : record.Reads decode Spells := by
  refine RecordType.reads_of_open (fun _ => rfl) ?_
  rintro config _
    ⟨hkeys, hdescription, hpath, hmessage, hfields, henum, hpointer, htypes⟩
  refine ⟨_, _, rfl, hkeys, ?_, ?_⟩
  · simp only [record, List.forall_mem_cons]
    exact ⟨Field.passes_of_gives decodes_text hkeys hdescription,
      Field.passes_of_gives decodes_text hkeys hpath,
      Field.passes_of_gives decodes_text hkeys hmessage,
      Field.passes_of_gives decodes_set hkeys hfields,
      Field.passes_of_gives decodes_text hkeys henum,
      Field.passes_of_gives decodes_text hkeys hpointer,
      Field.passes_of_gives decodes_set hkeys htypes, by simp⟩
  · rw [defaultMissingMessage, defaultEnumField, defaultEnumPointer,
      RecordType.optional_tableRecord decodes_text hdescription,
      RecordType.required_tableRecord decodes_text hpath,
      RecordType.optional_tableRecord decodes_text hmessage,
      RecordType.required_tableRecord decodes_set hfields,
      RecordType.optional_tableRecord decodes_text henum,
      RecordType.optional_tableRecord decodes_text hpointer,
      RecordType.required_tableRecord decodes_set htypes]
    rfl

end SchemaConfig

namespace ForbiddenMarker

def keys : List String := ["text", "label"]

inductive Spells (marker : ForbiddenMarker) : Toml → Prop
  | table {span : Span} {members : List (Key × Toml)} (hkeys : HasKeys keys members)
    (htext : Gives members "text" none SpellsText marker.text)
    (hlabel : Gives members "label" (some "explicit FAIL status") SpellsText
      marker.label) : Spells marker (.table span members)

def toToml (marker : ForbiddenMarker) : Toml :=
  .ofMembers [("text", .ofText marker.text), ("label", .ofText marker.label)]

theorem spells_toToml (marker : ForbiddenMarker) : marker.Spells marker.toToml := by
  refine .table ⟨?_, ?_⟩ ?_ ?_
  · simp [valuesOf]
  · simp [keys]
  · exact spellsText_ofText _
  · exact spellsText_ofText _

theorem reads : record.Reads decode Spells := by
  refine RecordType.reads_of_open (fun _ => rfl) ?_
  rintro marker _ ⟨hkeys, htext, hlabel⟩
  refine ⟨_, _, rfl, hkeys, ?_, ?_⟩
  · simp only [record, List.forall_mem_cons]
    exact ⟨Field.passes_of_gives decodes_text hkeys htext,
      Field.passes_of_gives decodes_text hkeys hlabel, by simp⟩
  · rw [defaultLabel, RecordType.required_tableRecord decodes_text htext,
      RecordType.optional_tableRecord decodes_text hlabel]
    rfl

end ForbiddenMarker

namespace EvidenceDocument

def keys : List String := ["path", "snippets"]

inductive Spells (document : EvidenceDocument) : Toml → Prop
  | table {span : Span} {members : List (Key × Toml)} (hkeys : HasKeys keys members)
    (hpath : Gives members "path" none SpellsText document.path)
    (hsnippets : Gives members "snippets" none (SpellsList SpellsText)
      document.snippets) : Spells document (.table span members)

def toToml (document : EvidenceDocument) : Toml :=
  .ofMembers [("path", .ofText document.path),
    ("snippets", .ofList .ofText document.snippets)]

theorem spells_toToml (document : EvidenceDocument) :
    document.Spells document.toToml := by
  refine .table ⟨?_, ?_⟩ ?_ ?_
  · simp [valuesOf]
  · simp [keys]
  · exact spellsText_ofText _
  · exact spellsList_ofList spellsText_ofText _

theorem reads : record.Reads decode Spells := by
  refine RecordType.reads_of_open (fun _ => rfl) ?_
  rintro document _ ⟨hkeys, hpath, hsnippets⟩
  refine ⟨_, _, rfl, hkeys, ?_, ?_⟩
  · simp only [record, List.forall_mem_cons]
    exact ⟨Field.passes_of_gives decodes_text hkeys hpath,
      Field.passes_of_gives decodes_textList hkeys hsnippets, by simp⟩
  · rw [RecordType.required_tableRecord decodes_text hpath,
      RecordType.required_tableRecord decodes_textList hsnippets]
    rfl

end EvidenceDocument

namespace EvidenceConfig

def keys : List String := ["family", "description", "forbidden_marker", "documents"]

/-- The table of a marker is there exactly if there is a marker. -/
inductive Spells (config : EvidenceConfig) : Toml → Prop
  | table {span : Span} {members : List (Key × Toml)} (hkeys : HasKeys keys members)
    (hfamily : Gives members "family" none SpellsText config.family)
    (hdescription : Gives members "description" (some "") SpellsText config.description)
    (hmarker : Gives members "forbidden_marker" (some none)
      (SpellsOption ForbiddenMarker.Spells) config.forbiddenMarker)
    (hdocuments : Gives members "documents" none (SpellsList EvidenceDocument.Spells)
      config.documents) : Spells config (.table span members)

def toToml (config : EvidenceConfig) : Toml :=
  .ofMembers ([("family", .ofText config.family),
    ("description", .ofText config.description),
    ("documents", .ofList EvidenceDocument.toToml config.documents)] ++
    config.forbiddenMarker.toList.map fun marker => ("forbidden_marker", marker.toToml))

theorem spells_toToml (config : EvidenceConfig) : config.Spells config.toToml := by
  obtain ⟨family, description, marker, documents⟩ := config
  cases marker with
  | none =>
    refine .table ⟨?_, ?_⟩ ?_ ?_ ?_ ?_
    · simp [valuesOf]
    · simp [keys]
    · exact spellsText_ofText _
    · exact spellsText_ofText _
    · rfl
    · exact spellsList_ofList EvidenceDocument.spells_toToml _
  | some marker =>
    refine .table ⟨?_, ?_⟩ ?_ ?_ ?_ ?_
    · simp [valuesOf]
    · simp [keys]
    · exact spellsText_ofText _
    · exact spellsText_ofText _
    · exact .some marker.spells_toToml
    · exact spellsList_ofList EvidenceDocument.spells_toToml _

theorem decodes_marker : Decodes decodeMarker (SpellsOption ForbiddenMarker.Spells) :=
  ForbiddenMarker.reads.decodes.option

theorem decodes_documents :
    Decodes decodeDocuments (SpellsList EvidenceDocument.Spells) :=
  EvidenceDocument.reads.decodes.list

theorem reads : record.Reads decode Spells := by
  refine RecordType.reads_of_open (fun _ => rfl) ?_
  rintro config _ ⟨hkeys, hfamily, hdescription, hmarker, hdocuments⟩
  refine ⟨_, _, rfl, hkeys, ?_, ?_⟩
  · simp only [record, List.forall_mem_cons]
    exact ⟨Field.passes_of_gives decodes_text hkeys hfamily,
      Field.passes_of_gives decodes_text hkeys hdescription,
      Field.passes_of_gives decodes_marker hkeys hmarker,
      Field.passes_of_gives decodes_documents hkeys hdocuments, by simp⟩
  · rw [RecordType.required_tableRecord decodes_text hfamily,
      RecordType.optional_tableRecord decodes_text hdescription,
      RecordType.optional_tableRecord decodes_marker hmarker,
      RecordType.required_tableRecord decodes_documents hdocuments]
    rfl

end EvidenceConfig

namespace Config

def keys : List String := ["freeze", "approvals", "schema", "evidence"]

inductive Spells (config : Config) : Toml → Prop
  | table {span : Span} {members : List (Key × Toml)} (hkeys : HasKeys keys members)
    (hfreeze : Gives members "freeze" none FreezeConfig.Spells config.freeze)
    (happrovals : Gives members "approvals" none ApprovalsConfig.Spells
      config.approvals)
    (hschema : Gives members "schema" none SchemaConfig.Spells config.schema)
    (hevidence : Gives members "evidence" (some []) (SpellsList EvidenceConfig.Spells)
      config.evidence) : Spells config (.table span members)

def toToml (config : Config) : Toml :=
  .ofMembers [("freeze", config.freeze.toToml), ("approvals", config.approvals.toToml),
    ("schema", config.schema.toToml),
    ("evidence", .ofList EvidenceConfig.toToml config.evidence)]

theorem spells_toToml (config : Config) : config.Spells config.toToml := by
  refine .table ⟨?_, ?_⟩ ?_ ?_ ?_ ?_
  · simp [valuesOf]
  · simp [keys]
  · exact config.freeze.spells_toToml
  · exact config.approvals.spells_toToml
  · exact config.schema.spells_toToml
  · exact spellsList_ofList EvidenceConfig.spells_toToml _

theorem decodes_families : Decodes decodeFamilies (SpellsList EvidenceConfig.Spells) :=
  EvidenceConfig.reads.decodes.list

theorem reads : record.Reads decode Spells := by
  refine RecordType.reads_of_open (fun _ => rfl) ?_
  rintro config _ ⟨hkeys, hfreeze, happrovals, hschema, hevidence⟩
  refine ⟨_, _, rfl, hkeys, ?_, ?_⟩
  · simp only [record, List.forall_mem_cons]
    exact ⟨Field.passes_of_gives FreezeConfig.reads.decodes hkeys hfreeze,
      Field.passes_of_gives ApprovalsConfig.reads.decodes hkeys happrovals,
      Field.passes_of_gives SchemaConfig.reads.decodes hkeys hschema,
      Field.passes_of_gives decodes_families hkeys hevidence, by simp⟩
  · rw [RecordType.required_tableRecord FreezeConfig.reads.decodes hfreeze,
      RecordType.required_tableRecord ApprovalsConfig.reads.decodes happrovals,
      RecordType.required_tableRecord SchemaConfig.reads.decodes hschema,
      RecordType.optional_tableRecord decodes_families hevidence]
    rfl

/-! ## Unknown keys -/

/-- A key that is not known is added to one table of a configuration, at one of the
levels that tables have. -/
inductive Strays (name : String) : List String → Toml → Toml → Prop
  | config {before after : Toml} (h : Gains keys name before after) :
    Strays name keys before after
  | freeze {before after : Toml}
    (h : Under "freeze" (Gains FreezeConfig.keys name) before after) :
    Strays name FreezeConfig.keys before after
  | approvals {before after : Toml}
    (h : Under "approvals" (Gains ApprovalsConfig.keys name) before after) :
    Strays name ApprovalsConfig.keys before after
  | schema {before after : Toml}
    (h : Under "schema" (Gains SchemaConfig.keys name) before after) :
    Strays name SchemaConfig.keys before after
  | family {before after : Toml}
    (h : Under "evidence" (InItem (Gains EvidenceConfig.keys name)) before after) :
    Strays name EvidenceConfig.keys before after
  | marker {before after : Toml}
    (h : Under "evidence" (InItem (Under "forbidden_marker"
      (Gains ForbiddenMarker.keys name))) before after) :
    Strays name ForbiddenMarker.keys before after
  | document {before after : Toml}
    (h : Under "evidence" (InItem (Under "documents" (InItem
      (Gains EvidenceDocument.keys name)))) before after) :
    Strays name EvidenceDocument.keys before after

theorem refuses_under_freeze {change : Toml → Toml → Prop} {misfit : Misfit}
    (h : Refuses FreezeConfig.decode FreezeConfig.Spells change misfit) :
    Refuses decode Spells (Under "freeze" change) misfit := by
  refine reads.refuses_under rfl ?_ h
  rintro config span members ⟨hkeys, hfreeze, _, _, _⟩
  exact ⟨_, _, _, hkeys, hfreeze⟩

theorem refuses_under_approvals {change : Toml → Toml → Prop} {misfit : Misfit}
    (h : Refuses ApprovalsConfig.decode ApprovalsConfig.Spells change misfit) :
    Refuses decode Spells (Under "approvals" change) misfit := by
  refine reads.refuses_under rfl ?_ h
  rintro config span members ⟨hkeys, _, happrovals, _, _⟩
  exact ⟨_, _, _, hkeys, happrovals⟩

theorem refuses_under_schema {change : Toml → Toml → Prop} {misfit : Misfit}
    (h : Refuses SchemaConfig.decode SchemaConfig.Spells change misfit) :
    Refuses decode Spells (Under "schema" change) misfit := by
  refine reads.refuses_under rfl ?_ h
  rintro config span members ⟨hkeys, _, _, hschema, _⟩
  exact ⟨_, _, _, hkeys, hschema⟩

theorem refuses_in_family {change : Toml → Toml → Prop} {misfit : Misfit}
    (h : Refuses EvidenceConfig.decode EvidenceConfig.Spells change misfit) :
    Refuses decode Spells (Under "evidence" (InItem change)) misfit := by
  refine reads.refuses_under rfl ?_ (h.inItem EvidenceConfig.reads.decodes)
  rintro config span members ⟨hkeys, _, _, _, hevidence⟩
  exact ⟨_, _, _, hkeys, hevidence⟩

end Config

theorem EvidenceConfig.refuses_under_marker {change : Toml → Toml → Prop}
    {misfit : Misfit}
    (h : Refuses ForbiddenMarker.decode ForbiddenMarker.Spells change misfit) :
    Refuses decode Spells (Under "forbidden_marker" change) misfit := by
  refine reads.refuses_under rfl ?_ h.option
  rintro config span members ⟨hkeys, _, _, hmarker, _⟩
  exact ⟨_, _, _, hkeys, hmarker⟩

theorem EvidenceConfig.refuses_in_document {change : Toml → Toml → Prop}
    {misfit : Misfit}
    (h : Refuses EvidenceDocument.decode EvidenceDocument.Spells change misfit) :
    Refuses decode Spells (Under "documents" (InItem change)) misfit := by
  refine reads.refuses_under rfl ?_ (h.inItem EvidenceDocument.reads.decodes)
  rintro config span members ⟨hkeys, _, _, _, hdocuments⟩
  exact ⟨_, _, _, hkeys, hdocuments⟩

namespace Config

theorem refuses_strays (name : String) (known : List String) :
    Refuses decode Spells (Strays name known) (.unknownField name known) := by
  intro config before after hspells hstrays
  cases hstrays with
  | config h => exact reads.refuses_gain name _ _ _ hspells h
  | freeze h =>
    exact refuses_under_freeze (FreezeConfig.reads.refuses_gain name) _ _ _ hspells h
  | approvals h =>
    exact refuses_under_approvals (ApprovalsConfig.reads.refuses_gain name) _ _ _
      hspells h
  | schema h =>
    exact refuses_under_schema (SchemaConfig.reads.refuses_gain name) _ _ _ hspells h
  | family h =>
    exact refuses_in_family (EvidenceConfig.reads.refuses_gain name) _ _ _ hspells h
  | marker h =>
    have hmarker := ForbiddenMarker.reads.refuses_gain name
    exact refuses_in_family (EvidenceConfig.refuses_under_marker hmarker) _ _ _
      hspells h
  | document h =>
    have hdocument := EvidenceDocument.reads.refuses_gain name
    exact refuses_in_family (EvidenceConfig.refuses_in_document hdocument) _ _ _
      hspells h

/-- Reading a configuration undoes spelling it, however it is spelled, and nothing
is overlooked: where a key that is not known stands in one of its tables, the
reader says so. -/
theorem ofText_undoes_spelling {config : Config} (hrules : config.validate = .ok ()) :
    config.Spells config.toToml ∧
    (∀ document value, Toml.read? document = some value → config.Spells value →
      (ofText document).mapError GateError.config = .ok config) ∧
    ∀ document name known spelled strayed, config.Spells spelled →
      Strays name known spelled strayed → Toml.read? document = some strayed →
      ∃ span, (ofText document).mapError GateError.config =
        .error (.config (.shape document ⟨span, .unknownField name known⟩)) := by
  refine ⟨config.spells_toToml, ?_, ?_⟩
  · intro document value hread hspells
    have hdecode := reads.decodes config value hspells
    simp only [mapError_eq_ok_iff, ofText, hread]
    exact ofToml_eq_ok_iff.mpr ⟨hdecode, hrules⟩
  · intro document name known spelled strayed hspells hstrays hread
    obtain ⟨span, hfault⟩ :=
      refuses_strays name known config spelled strayed hspells hstrays
    refine ⟨span, ?_⟩
    simp only [ofText, hread, ofToml, hfault]
    rfl

/-- Settings in which most keys are left out and the others stand in no order. The
first line of the only family is open. -/
def accessSettings (line : String) : String := "[[evidence]]
" ++ line ++ "forbidden_marker.text = 'FAIL'
family = 'access'
[[evidence.documents]]
snippets = ['ok', 'ok']
path = 'c'
[freeze]
required_paths = ['b', 'a', 'b']
[approvals]
ledger = 'l'
[schema]
required_fields = ['id', 'id']
path = 's'
event_types = ['t']"

def accessConfig : Config where
  freeze := { requiredPaths := ["b", "a", "b"] }
  approvals := { ledger := "l" }
  schema :=
    { path := "s", requiredFields := .ofList ["id"], eventTypes := .ofList ["t"] }
  evidence :=
    [{ family := "access", forbiddenMarker := some { text := "FAIL" },
       documents := [⟨"c", ["ok", "ok"]⟩] }]

def accessFreeze : Toml :=
  .table ⟨137, 8⟩
    [(⟨"required_paths", ⟨128, 14⟩⟩, .array ⟨111, 15⟩
       [.string ⟨110, 3⟩ "b", .string ⟨105, 3⟩ "a", .string ⟨100, 3⟩ "b"])]

def accessApprovals : Toml :=
  .table ⟨95, 11⟩ [(⟨"ledger", ⟨83, 6⟩⟩, .string ⟨74, 3⟩ "l")]

def accessSchema : Toml :=
  .table ⟨70, 8⟩
    [(⟨"event_types", ⟨19, 11⟩⟩, .array ⟨5, 5⟩ [.string ⟨4, 3⟩ "t"]),
     (⟨"path", ⟨30, 4⟩⟩, .string ⟨23, 3⟩ "s"),
     (⟨"required_fields", ⟨61, 15⟩⟩,
       .array ⟨43, 12⟩ [.string ⟨42, 4⟩ "id", .string ⟨36, 4⟩ "id"])]

def accessDocument : Toml :=
  .table ⟨195, 22⟩
    [(⟨"path", ⟨148, 4⟩⟩, .string ⟨141, 3⟩ "c"),
     (⟨"snippets", ⟨172, 8⟩⟩,
       .array ⟨161, 12⟩ [.string ⟨160, 4⟩ "ok", .string ⟨154, 4⟩ "ok"])]

/-- The marker, when the open line adds these members in so many bytes. -/
def accessMarker (bytes : Nat) (members : List (Key × Toml)) : Toml :=
  .table ⟨244 + bytes, 16⟩
    (members ++ [(⟨"text", ⟨227, 4⟩⟩, .string ⟨220, 6⟩ "FAIL")])

def accessFamily (bytes : Nat) (members : List (Key × Toml)) : Toml :=
  .table ⟨257 + bytes, 12⟩
    [(⟨"documents", ⟨184, 9⟩⟩, .array ⟨195, 22⟩ [accessDocument]),
     (⟨"family", ⟨213, 6⟩⟩, .string ⟨204, 8⟩ "access"),
     (⟨"forbidden_marker", ⟨244 + bytes, 16⟩⟩, accessMarker bytes members)]

def accessValue (bytes : Nat) (members : List (Key × Toml)) : Toml :=
  .table ⟨257 + bytes, 0⟩
    [(⟨"approvals", ⟨94, 9⟩⟩, accessApprovals),
     (⟨"evidence", ⟨255 + bytes, 8⟩⟩,
       .array ⟨257 + bytes, 12⟩ [accessFamily bytes members]),
     (⟨"freeze", ⟨136, 6⟩⟩, accessFreeze),
     (⟨"schema", ⟨69, 6⟩⟩, accessSchema)]

theorem spells_accessValue (bytes : Nat) :
    accessConfig.Spells (accessValue bytes []) := by
  have hfreeze : accessConfig.freeze.Spells accessFreeze := by
    refine .table ⟨by simp [valuesOf], by simp [FreezeConfig.keys]⟩ rfl ?_
    exact .array _
      (.cons (.string _ _) (.cons (.string _ _) (.cons (.string _ _) .nil)))
  have happrovals : accessConfig.approvals.Spells accessApprovals := by
    refine .table ⟨by simp [valuesOf], by simp [ApprovalsConfig.keys]⟩ rfl ?_
    exact .string _ _
  have hschema : accessConfig.schema.Spells accessSchema := by
    refine .table ⟨by simp [valuesOf], by simp [SchemaConfig.keys]⟩ rfl ?_ rfl ?_ rfl
      rfl ?_
    · exact .string _ _
    · have hnames : SpellsList SpellsText ["id", "id"]
          (.array ⟨43, 12⟩ [.string ⟨42, 4⟩ "id", .string ⟨36, 4⟩ "id"]) :=
        .array _ (.cons (.string _ _) (.cons (.string _ _) .nil))
      exact .list hnames (by simp [accessConfig, NameSet.mem_ofList])
    · have hnames : SpellsList SpellsText ["t"] (.array ⟨5, 5⟩ [.string ⟨4, 3⟩ "t"]) :=
        .array _ (.cons (.string _ _) .nil)
      exact .list hnames (by simp [accessConfig, NameSet.mem_ofList])
  have hdocument : EvidenceDocument.Spells ⟨"c", ["ok", "ok"]⟩ accessDocument := by
    refine .table ⟨by simp [valuesOf], by simp [EvidenceDocument.keys]⟩ ?_ ?_
    · exact .string _ _
    · exact .array _ (.cons (.string _ _) (.cons (.string _ _) .nil))
  have hmarker : ForbiddenMarker.Spells { text := "FAIL" } (accessMarker bytes []) := by
    refine .table ⟨by simp [valuesOf], by simp [ForbiddenMarker.keys]⟩ ?_ rfl
    exact .string _ _
  have hfamily : EvidenceConfig.Spells
      { family := "access", forbiddenMarker := some { text := "FAIL" },
        documents := [⟨"c", ["ok", "ok"]⟩] } (accessFamily bytes []) := by
    refine .table ⟨by simp [valuesOf], by simp [EvidenceConfig.keys]⟩ ?_ rfl ?_ ?_
    · exact .string _ _
    · exact .some hmarker
    · exact .array _ (.cons hdocument .nil)
  refine .table ⟨by simp [valuesOf], by simp [keys]⟩ hfreeze happrovals hschema ?_
  exact .array _ (.cons hfamily .nil)

/-- A key that was misspelled in the table of the marker. -/
def misspelledLabel : List (Key × Toml) :=
  [(⟨"lable", ⟨255, 5⟩⟩, .string ⟨247, 2⟩ "")]

theorem strays_accessValue :
    Strays "lable" ForbiddenMarker.keys (accessValue 28 [])
      (accessValue 28 misspelledLabel) := by
  have hmarker : Gains ForbiddenMarker.keys "lable" (accessMarker 28 [])
      (accessMarker 28 misspelledLabel) :=
    @Gains.member _ _ _ [] [_] _ _ rfl (by decide)
  have hfamily : Under "forbidden_marker" (Gains ForbiddenMarker.keys "lable")
      (accessFamily 28 []) (accessFamily 28 misspelledLabel) :=
    @Under.member _ _ _ [_, _] [] _ _ _ rfl hmarker
  have hevidence := @InItem.item _ ⟨285, 12⟩ [] [] _ _ hfamily
  exact .marker (@Under.member _ _ _ [_] [_, _] _ _ _ rfl hevidence)

set_option maxRecDepth 8192 in
theorem read?_accessSettings :
    Toml.read? (accessSettings "") = some (accessValue 0 []) := by
  -- The text as characters first: to decode it is slower than to read it.
  unfold Toml.read?
  rw [accessSettings, String.toList_append, String.toList_append,
    String.toList_ofList, String.toList_ofList, String.toList_ofList]
  rfl

set_option maxRecDepth 8192 in
theorem read?_misspelledLabel :
    Toml.read? (accessSettings "forbidden_marker.lable = ''\n") =
      some (accessValue 28 misspelledLabel) := by
  unfold Toml.read?
  rw [accessSettings, String.toList_append, String.toList_append,
    String.toList_ofList, String.toList_ofList, String.toList_ofList]
  rfl

theorem ofText_undoes_spelling_of_access :
    accessConfig.validate = .ok () ∧
      Toml.read? (accessSettings "") = some (accessValue 0 []) ∧
      accessConfig.Spells (accessValue 0 []) ∧
      (ofText (accessSettings "")).mapError GateError.config = .ok accessConfig ∧
      Toml.read? (accessSettings "forbidden_marker.lable = ''\n") =
        some (accessValue 28 misspelledLabel) ∧
      Strays "lable" ForbiddenMarker.keys (accessValue 28 [])
        (accessValue 28 misspelledLabel) ∧
      ∃ span,
        (ofText (accessSettings "forbidden_marker.lable = ''\n")).mapError
            GateError.config =
          .error (.config (.shape (accessSettings "forbidden_marker.lable = ''\n")
            ⟨span, .unknownField "lable" ["text", "label"]⟩)) := by
  have hrules : accessConfig.validate = .ok () := by decide
  obtain ⟨_, hreads, hrefuses⟩ := ofText_undoes_spelling hrules
  exact ⟨hrules, read?_accessSettings, spells_accessValue 0,
    hreads _ _ read?_accessSettings (spells_accessValue 0),
    read?_misspelledLabel, strays_accessValue,
    hrefuses _ _ _ _ _ (spells_accessValue 28) strays_accessValue read?_misspelledLabel⟩

end Config

end Compliance
