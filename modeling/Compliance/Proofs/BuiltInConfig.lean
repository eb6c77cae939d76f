import Compliance.Proofs.ExitStatus
import Compliance.Proofs.SourceAgreement

/-!
The configuration that is built in. The document that comes with the program is
accepted and spells the gates of a release: three fixed ones, and two families of
evidence. All its paths are relative and short.
-/

namespace Compliance

def Config.builtIn : Config where
  freeze :=
    { description := "contract freeze baseline artifacts are present"
      requiredPaths :=
        ["contracts/canonical_event_v1.schema.json",
         "contracts/reconciliation_model_v0.json",
         "contracts/exception_taxonomy_v0.json",
         "finance/POSTING_RULE_TEMPLATE_PACK_V1.md",
         "finance/DUAL_BOOK_POLICY_PACKAGE_V1.md",
         "controls/ACCESS_MODEL_V0.md",
         "controls/CONTROL_GATES_REGISTER_V1.md",
         "controls/TAMPER_SEALING_VERIFICATION_V1.md",
         "controls/ACCESS_REVIEW_REPORTING_V1.md",
         "controls/PCI_SCOPE_CONTROL_OWNERSHIP_MATRIX_V1.md",
         "policies/opa/access.rego",
         "policies/opa/access_test.rego",
         "governance/impact_decisions.json",
         "specs/SPRINT5_RECON_EVIDENCE_EXPORT.md"] }
  approvals :=
    { description := "financial and control impact decisions carry sign-off"
      ledger := "governance/impact_decisions.json" }
  schema :=
    { description := "canonical event envelope and event types are declared"
      path := "contracts/canonical_event_v1.schema.json"
      missingMessage := "canonical schema missing"
      requiredFields := .ofList
        ["event_id", "event_type", "schema_version", "source_system", "source_event_id",
         "occurred_at", "business_date", "tenant_id", "legal_entity_id",
         "idempotency_key", "payload"]
      eventTypes := .ofList ["order.captured.v1", "payment.settled.v1", "refund.v1"] }
  evidence :=
    [{ family := "sprint5"
       description := "tamper sealing, access review and PCI ownership attestations"
       documents :=
        [⟨"controls/TAMPER_SEALING_VERIFICATION_V1.md",
          ["Status: PASS", "seal_chain_verified: true"]⟩,
         ⟨"controls/ACCESS_REVIEW_REPORTING_V1.md",
          ["Status: PASS", "review_attestation_complete: true"]⟩,
         ⟨"controls/PCI_SCOPE_CONTROL_OWNERSHIP_MATRIX_V1.md",
          ["Status: PASS", "ownership_signoff_complete: true"]⟩] },
     { family := "sprint6"
       description := "release control signoff and incident drill outcomes"
       forbiddenMarker := some { text := "Status: FAIL" }
       documents :=
        [⟨"controls/RELEASE_CONTROL_CHECKLIST_V1.md",
          ["Status: PASS", "## Sprint 6 Release Control Signoff",
           "## Pass/Fail Gate Results", "control_gate_result: PASS"]⟩,
         ⟨"controls/INCIDENT_RESPONSE_DRILL_REPORT_V1.md",
          ["Status: PASS", "## Drill Scenario", "## Pass/Fail Outcome",
           "drill_gate_result: PASS"]⟩,
         ⟨"controls/CONTROL_GATES_REGISTER_V1.md",
          ["## Sprint 6 Status", "release_control_signoff"]⟩] }]

namespace Config

set_option maxRecDepth 8192 in
theorem decode_defaultConfigText :
    ((Toml.read? Assets.defaultConfigText).bind fun value => (decode value).toOption) =
      some builtIn := by
  -- The text as characters first: to decode it is slower than to read it.
  unfold Toml.read?
  rw [Assets.defaultConfigText, String.toList_ofList]
  decide +kernel

theorem validate_builtIn : builtIn.validate = .ok () := by decide +kernel

/-- The built-in document spells the configuration above, and it keeps the rules. -/
theorem ofText_defaultConfigText : ofText Assets.defaultConfigText = .ok builtIn := by
  obtain ⟨value, hread, hdecode⟩ := Option.bind_eq_some_iff.mp decode_defaultConfigText
  exact ofText_eq_ok_iff.mpr
    ⟨value, hread, toOption_eq_some_iff.mp hdecode, validate_builtIn⟩

/-- The longest of its paths, in bytes. -/
def longestBuiltIn : Nat := 49

theorem builtIn_paths :
    ∀ path ∈ builtIn.freeze.requiredPaths ++ builtIn.contentPaths,
      FileTree.isAbsolute path = false ∧ path ≠ "" ∧ '\x00' ∉ path.toList ∧
        path.utf8ByteSize ≤ longestBuiltIn := by
  decide +kernel

end Config

theorem Command.embeddedConfig_eq : embeddedConfig = .ok Config.builtIn := by
  rw [embeddedConfig, Config.ofText_defaultConfigText]
  rfl

end Compliance
