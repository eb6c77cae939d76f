/-!
The documents that are built into the program. There is one, the configuration that is used when none is given.
-/

namespace Compliance.Assets

/-- The name of the built-in configuration. -/
def defaultConfigName : String := "gates.toml"

def defaultConfigText : String :=
  "# Default gate configuration, embedded into every binary.
# `complygate --config <file>` replaces it wholesale.

[freeze]
description = \"contract freeze baseline artifacts are present\"
required_paths = [
    \"contracts/canonical_event_v1.schema.json\",
    \"contracts/reconciliation_model_v0.json\",
    \"contracts/exception_taxonomy_v0.json\",
    \"finance/POSTING_RULE_TEMPLATE_PACK_V1.md\",
    \"finance/DUAL_BOOK_POLICY_PACKAGE_V1.md\",
    \"controls/ACCESS_MODEL_V0.md\",
    \"controls/CONTROL_GATES_REGISTER_V1.md\",
    \"controls/TAMPER_SEALING_VERIFICATION_V1.md\",
    \"controls/ACCESS_REVIEW_REPORTING_V1.md\",
    \"controls/PCI_SCOPE_CONTROL_OWNERSHIP_MATRIX_V1.md\",
    \"policies/opa/access.rego\",
    \"policies/opa/access_test.rego\",
    \"governance/impact_decisions.json\",
    \"specs/SPRINT5_RECON_EVIDENCE_EXPORT.md\",
]

[approvals]
description = \"financial and control impact decisions carry sign-off\"
ledger = \"governance/impact_decisions.json\"

[schema]
description = \"canonical event envelope and event types are declared\"
path = \"contracts/canonical_event_v1.schema.json\"
missing_message = \"canonical schema missing\"
required_fields = [
    \"event_id\",
    \"event_type\",
    \"schema_version\",
    \"source_system\",
    \"source_event_id\",
    \"occurred_at\",
    \"business_date\",
    \"tenant_id\",
    \"legal_entity_id\",
    \"idempotency_key\",
    \"payload\",
]
enum_field = \"event_type\"
enum_pointer = \"/properties/event_type/enum\"
event_types = [\"order.captured.v1\", \"payment.settled.v1\", \"refund.v1\"]

[[evidence]]
family = \"sprint5\"
description = \"tamper sealing, access review and PCI ownership attestations\"

[[evidence.documents]]
path = \"controls/TAMPER_SEALING_VERIFICATION_V1.md\"
snippets = [\"Status: PASS\", \"seal_chain_verified: true\"]

[[evidence.documents]]
path = \"controls/ACCESS_REVIEW_REPORTING_V1.md\"
snippets = [\"Status: PASS\", \"review_attestation_complete: true\"]

[[evidence.documents]]
path = \"controls/PCI_SCOPE_CONTROL_OWNERSHIP_MATRIX_V1.md\"
snippets = [\"Status: PASS\", \"ownership_signoff_complete: true\"]

[[evidence]]
family = \"sprint6\"
description = \"release control signoff and incident drill outcomes\"
forbidden_marker = \x7b text = \"Status: FAIL\", label = \"explicit FAIL status\" \x7d

[[evidence.documents]]
path = \"controls/RELEASE_CONTROL_CHECKLIST_V1.md\"
snippets = [
    \"Status: PASS\",
    \"## Sprint 6 Release Control Signoff\",
    \"## Pass/Fail Gate Results\",
    \"control_gate_result: PASS\",
]

[[evidence.documents]]
path = \"controls/INCIDENT_RESPONSE_DRILL_REPORT_V1.md\"
snippets = [
    \"Status: PASS\",
    \"## Drill Scenario\",
    \"## Pass/Fail Outcome\",
    \"drill_gate_result: PASS\",
]

[[evidence.documents]]
path = \"controls/CONTROL_GATES_REGISTER_V1.md\"
snippets = [\"## Sprint 6 Status\", \"release_control_signoff\"]
"

/-- Built-in documents by name, in ascending order. -/
def documents : List (String × String) := [(defaultConfigName, defaultConfigText)]

def names : List String := documents.map Prod.fst

def text? (name : String) : Option String := documents.lookup name

end Compliance.Assets
