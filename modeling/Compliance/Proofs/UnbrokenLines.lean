import Compliance.Proofs.ExitStatus
import Compliance.Proofs.LedgerFindings
import Compliance.Proofs.TextLines

/-!
What documents can do to the lines of a report. Names from a schema are quoted and
texts in search of which evidence is read come from the configuration, so under a
configuration of single lines no schema and no evidence can break a line. A ledger
can: the id of a decision is printed as it is.
-/

namespace Compliance

open Output

/-- Whatever names are listed, their quotes keep them on one line. -/
theorem singleLine_quotedList (names : List String) :
    SingleLine (Text.quotedList names) :=
  Text.not_mem_quotedList List.mem_cons_self names

/-! ## The texts of a configuration -/

def FreezeConfig.texts (config : FreezeConfig) : List String :=
  config.description :: config.requiredPaths

def ApprovalsConfig.texts (config : ApprovalsConfig) : List String :=
  [config.description, config.ledger]

def SchemaConfig.texts (config : SchemaConfig) : List String :=
  [config.description, config.path, config.missingMessage, config.enumField,
    config.enumPointer] ++ config.requiredFields.names ++ config.eventTypes.names

def ForbiddenMarker.texts (marker : ForbiddenMarker) : List String :=
  [marker.text, marker.label]

def EvidenceDocument.texts (document : EvidenceDocument) : List String :=
  document.path :: document.snippets

def EvidenceConfig.texts (config : EvidenceConfig) : List String :=
  [config.family, config.description] ++
    config.forbiddenMarker.toList.flatMap ForbiddenMarker.texts ++
    config.documents.flatMap EvidenceDocument.texts

/-- All texts that a configuration is made of. -/
def Config.texts (config : Config) : List String :=
  config.freeze.texts ++ config.approvals.texts ++ config.schema.texts ++
    config.evidence.flatMap EvidenceConfig.texts

/-! ## Requirements -/

namespace Violation

/-- Names in lists are quoted, so nothing is asked of them. -/
theorem singleLine_incompleteFields (path : String) (missing : List String) :
    SingleLine (Violation.incompleteFields path missing).message := by
  have hwords : SingleLine "schema required fields missing: " := by simp [SingleLine]
  exact singleLine_append.mpr ⟨hwords, singleLine_quotedList missing⟩

theorem singleLine_enumMismatch {field : String} (h : SingleLine field)
    (path : String) (expected actual : List String) :
    SingleLine (Violation.enumMismatch path field expected actual).message := by
  change SingleLine (field ++ " enum mismatch: expected " ++
    Text.quotedList expected ++ ", got " ++ Text.quotedList actual)
  have hwords : SingleLine " enum mismatch: expected " ∧ SingleLine ", got " := by
    simp [SingleLine]
  simp [h, hwords, singleLine_quotedList]

theorem singleLine_missingSnippet {path snippet : String} (hpath : SingleLine path)
    (hsnippet : SingleLine snippet) :
    SingleLine (Violation.missingSnippet path snippet).message := by
  change SingleLine ("missing required snippet '" ++ snippet ++ "' in " ++ path)
  have hwords : SingleLine "missing required snippet '" ∧ SingleLine "' in " := by
    simp [SingleLine]
  simp [hpath, hsnippet, hwords]

theorem singleLine_forbiddenMarkerPresent {path label : String}
    (hpath : SingleLine path) (hlabel : SingleLine label) (marker : String) :
    SingleLine (Violation.forbiddenMarkerPresent path marker label).message := by
  change SingleLine (label ++ " detected in " ++ path)
  have hwords : SingleLine " detected in " := by simp [SingleLine]
  simp [hpath, hlabel, hwords]

theorem singleLine_missingArtifact {path : String} (h : SingleLine path) :
    SingleLine (Violation.missingArtifact path).message := by
  have hwords : SingleLine "missing " := by simp [SingleLine]
  exact singleLine_append.mpr ⟨hwords, h⟩

theorem singleLine_approvalMissing_iff {decision : String} (approval : Approval) :
    SingleLine (Violation.approvalMissing decision approval).message ↔
      SingleLine decision := by
  change SingleLine (decision ++ ": " ++ approval.name ++ " approval missing") ↔ _
  have hwords : SingleLine ": " ∧ SingleLine " approval missing" := by
    simp [SingleLine]
  have hname : SingleLine approval.name := by
    cases approval <;> simp [Approval.name, SingleLine]
  simp [hwords, hname]

end Violation

namespace Requirement

/-- The texts of a requirement that can come up in the message of a finding without
quotes. -/
def shownTexts : Requirement → List String
  | existence path => [path]
  | fieldCoverage path _ => [path]
  | enumEquality path _ field _ => [path, field]
  | snippetPresence path snippets => path :: snippets
  | snippetAbsence path _ label => [path, label]

/-- A requirement finds single lines only, whatever the document holds. -/
theorem singleLine_of_evaluateDocument {requirement : Requirement}
    {document : Document} {found : List Violation}
    (htexts : ∀ text ∈ requirement.shownTexts, SingleLine text)
    (hpath : document.path = requirement.path)
    (h : requirement.evaluateDocument document = .ok found) :
    ∀ violation ∈ found, SingleLine violation.message := by
  intro violation hviolation
  cases requirement with
  | existence path =>
    cases h
    cases hviolation
  | fieldCoverage path expected =>
    obtain ⟨value, _, rfl⟩ := map_eq_ok_iff.mp h
    unfold checkFieldCoverage at hviolation
    dsimp only at hviolation
    split at hviolation
    · cases hviolation
    · rw [List.mem_singleton.mp hviolation]
      exact Violation.singleLine_incompleteFields _ _
  | enumEquality path pointer field expected =>
    obtain ⟨value, _, rfl⟩ := map_eq_ok_iff.mp h
    unfold checkEnumEquality at hviolation
    dsimp only at hviolation
    split at hviolation
    · cases hviolation
    · rw [List.mem_singleton.mp hviolation]
      have hfield : SingleLine field := htexts field (by simp [shownTexts])
      exact Violation.singleLine_enumMismatch hfield _ _ _
  | snippetPresence path snippets =>
    cases h
    obtain ⟨snippet, hsnippet, rfl⟩ := List.mem_map.mp hviolation
    have hmember : snippet ∈ snippets := List.mem_of_mem_filter hsnippet
    have hshown : SingleLine document.path := by
      rw [hpath]
      exact htexts _ (by simp [shownTexts, Requirement.path])
    exact Violation.singleLine_missingSnippet hshown
      (htexts snippet (by simp [shownTexts, hmember]))
  | snippetAbsence path marker label =>
    cases h
    unfold checkMarkerAbsent at hviolation
    split at hviolation
    · rw [List.mem_singleton.mp hviolation, hpath]
      exact Violation.singleLine_forbiddenMarkerPresent
        (htexts _ (by simp [shownTexts, Requirement.path]))
        (htexts label (by simp [shownTexts])) marker
    · cases hviolation

/-- So is the first violation of several requirements on one document. -/
theorem singleLine_of_firstViolation {requirements : List Requirement}
    {document : Document} {violation : Violation}
    (htexts : ∀ requirement ∈ requirements,
      document.path = requirement.path ∧
        ∀ text ∈ requirement.shownTexts, SingleLine text)
    (h : firstViolation document requirements = .ok (some violation)) :
    SingleLine violation.message := by
  induction requirements with
  | nil => cases h
  | cons requirement rest ih =>
    obtain ⟨⟨hpath, hhead⟩, hrest⟩ := List.forall_mem_cons.mp htexts
    unfold firstViolation at h
    cases hfound : requirement.evaluateDocument document with
    | error failure =>
      rw [hfound] at h
      cases h
    | ok found =>
      rw [hfound] at h
      cases found with
      | nil => exact ih hrest h
      | cons first others =>
        cases h
        exact singleLine_of_evaluateDocument hhead hpath hfound _ List.mem_cons_self

end Requirement

/-! ## Gates -/

theorem Freeze.isLined_of_run {source : Source} {config : FreezeConfig}
    {report : Report} (hconfig : ∀ text ∈ config.texts, SingleLine text)
    (h : run source config = .ok report) : report.IsLined := by
  rw [run_eq] at h
  cases h
  have hframe : ((Report.fresh gateName successLine).withHeader header).IsLined :=
    (Report.isLined_fresh (by decide)).withHeader (by decide)
  apply hframe.failAll
  intro violation hviolation
  obtain ⟨violations, hviolations, hmember⟩ := List.mem_flatten.mp hviolation
  obtain ⟨path, hpath, rfl⟩ := List.mem_map.mp hviolations
  unfold Requirement.checkExistence at hmember
  split at hmember
  · cases hmember
  · rw [List.mem_singleton.mp hmember]
    exact hconfig path (by simp [FreezeConfig.texts, hpath])

theorem Schema.isLined_of_run {source : Source} {config : SchemaConfig}
    {made : Report} (hconfig : ∀ text ∈ config.texts, SingleLine text)
    (h : run source config = .ok made) : made.IsLined := by
  have hfresh : (Report.fresh gateName successLine).IsLined :=
    Report.isLined_fresh (by decide)
  have hpath : SingleLine config.path := hconfig _ (by simp [SchemaConfig.texts])
  have hfield : SingleLine config.enumField := hconfig _ (by simp [SchemaConfig.texts])
  rcases run_cases h with ⟨_, rfl⟩ | ⟨document, found, hload, hfound, rfl⟩
  · exact hfresh.fail _ (hconfig _ (by simp [SchemaConfig.texts]))
  · have hsame : document.path = config.path := Source.path_of_load hload
    cases found with
    | none => exact hfresh.record document
    | some violation =>
      refine (hfresh.record document).fail violation
        (Requirement.singleLine_of_firstViolation ?_ hfound)
      simp [requirements, Requirement.path, Requirement.shownTexts, hsame, hpath,
        hfield]

theorem Evidence.singleLine_line {violation : Violation}
    (h : SingleLine violation.message) : SingleLine (line violation) := by
  cases violation with
  | missingArtifact path =>
    have hwords : SingleLine "missing required control artifact: " := by
      simp [SingleLine]
    exact singleLine_append.mpr ⟨hwords, (singleLine_append.mp h).2⟩
  | _ => exact h

/-- All that an evidence gate can show comes from the configuration. -/
theorem Evidence.singleLine_shownTexts {config : EvidenceConfig}
    {entry : EvidenceDocument} {requirement : Requirement}
    (hconfig : ∀ text ∈ config.texts, SingleLine text)
    (hentry : ∀ text ∈ entry.texts, SingleLine text)
    (h : requirement ∈ requirements config entry) :
    ∀ text ∈ requirement.shownTexts, SingleLine text := by
  have hpath : SingleLine entry.path := hentry _ (by simp [EvidenceDocument.texts])
  have hsnippets : ∀ snippet ∈ entry.snippets, SingleLine snippet :=
    fun snippet hm => hentry _ (by simp [EvidenceDocument.texts, hm])
  rcases List.mem_append.mp h with hmarked | hplain
  · cases hmarker : config.forbiddenMarker with
    | none =>
      rw [hmarker] at hmarked
      cases hmarked
    | some marker =>
      rw [hmarker] at hmarked
      have hlabel : SingleLine marker.label :=
        hconfig _ (by simp [EvidenceConfig.texts, hmarker, ForbiddenMarker.texts])
      rw [List.mem_singleton.mp hmarked]
      simp [Requirement.shownTexts, hpath, hlabel]
  · rw [List.mem_singleton.mp hplain]
    exact List.forall_mem_cons.mpr ⟨hpath, hsnippets⟩

theorem Evidence.isLined_of_check {source : Source} {config : EvidenceConfig}
    {entries : List EvidenceDocument} {start made : Report}
    (hconfig : ∀ text ∈ config.texts, SingleLine text)
    (hentries : ∀ entry ∈ entries, entry ∈ config.documents) (hstart : start.IsLined)
    (h : check source config start entries = .ok made) : made.IsLined := by
  induction entries generalizing start with
  | nil =>
    cases h
    exact hstart
  | cons entry rest ih =>
    obtain ⟨hentry, hrest⟩ := List.forall_mem_cons.mp hentries
    have hshown : ∀ text ∈ entry.texts, SingleLine text := by
      intro text htext
      apply hconfig
      simp only [EvidenceConfig.texts, List.mem_append, List.mem_flatMap]
      exact .inr ⟨entry, hentry, htext⟩
    have hpath : SingleLine entry.path := hshown _ (by simp [EvidenceDocument.texts])
    unfold check at h
    split at h
    · cases h
    · cases h
      exact hstart.fail _
        (singleLine_line (Violation.singleLine_missingArtifact hpath))
    · next document hload =>
      have hsame : document.path = entry.path := Source.path_of_load hload
      split at h
      · cases h
      · next violation hfound =>
        cases h
        refine (hstart.record document).fail violation (singleLine_line
          (Requirement.singleLine_of_firstViolation ?_ hfound))
        intro requirement hrequirement
        have honPath := requirements_onPath config entry requirement hrequirement
        exact ⟨hsame.trans honPath.2.symm,
          singleLine_shownTexts hconfig hshown hrequirement⟩
      · exact ih hrest (hstart.record document) h

theorem Json.singleLine_text (value : Json) : SingleLine value.text :=
  lineFeed_not_mem_text value

namespace Approvals

/-- A label breaks a line only if it is a string that does: all other values are
written as JSON. -/
theorem singleLine_label_iff (value : Option Json) :
    SingleLine (label value) ↔
      ∀ text, value = some (.string text) → SingleLine text := by
  cases value with
  | none => simp [label, unknownId, SingleLine]
  | some value =>
    cases value with
    | null => simp [label, unknownId, SingleLine]
    | boolean truth => cases truth <;> simp [label, SingleLine]
    | string text => simp [label]
    | number value => simp [label, Json.singleLine_text]
    | array items => simp [label, Json.singleLine_text]
    | object members => simp [label, Json.singleLine_text]

/-- The ids of the decisions that lack an approval do not break a line. -/
def HasLinedIds (items : List Json) : Prop :=
  ∀ item ∈ items, ∀ approval, Lacks item approval →
    ∀ id, item.member? "id" = some (.string id) → SingleLine id

theorem singleLine_lackingViolations_iff (items : List Json) :
    (∀ violation ∈ items.flatMap lackingViolations, SingleLine violation.message) ↔
      HasLinedIds items := by
  have hlacking (item : Json) (approval : Approval) :
      .approvalMissing (label (item.member? "id")) approval ∈ lackingViolations item ↔
        Lacks item approval := by
    cases approval <;> simp [lackingViolations]
  constructor
  · intro h item hitem approval hlacks
    rw [← singleLine_label_iff, ← Violation.singleLine_approvalMissing_iff approval]
    exact h _ (List.mem_flatMap.mpr ⟨item, hitem, (hlacking item approval).mpr hlacks⟩)
  · intro h violation hviolation
    obtain ⟨item, hitem, hfound⟩ := List.mem_flatMap.mp hviolation
    obtain ⟨approval, _, rfl⟩ := List.mem_map.mp hfound
    rw [Violation.singleLine_approvalMissing_iff, singleLine_label_iff]
    exact h item hitem approval ((hlacking item approval).mp hfound)

/-- Decisions that were read from a ledger are those of its items. -/
theorem holdsDecisions_of_decisionsOf {document : Document} {decisions : List Decision}
    (h : decisionsOf document = .ok decisions) :
    (∃ items, HoldsDecisions document items) ∧
      ∀ items, HoldsDecisions document items →
        decisions.flatMap Decision.violations = items.flatMap lackingViolations := by
  have hwell : ¬Malformed document := by
    intro hmalformed
    obtain ⟨reason, hdefect⟩ := (malformed_iff document).mp hmalformed
    rw [decisionsOf_of_defect hdefect] at h
    cases h
  obtain ⟨items, read, hholds, hread, hviolations⟩ := decisionsOf_of_not_malformed hwell
  refine ⟨⟨items, hholds⟩, ?_⟩
  intro others hothers
  have hobjects : ∀ item ∈ others, item.isObject = true := by
    intro item hitem
    by_contra hnone
    exact hwell (.inr (.inr ⟨others, hothers, item, hitem, by simpa using hnone⟩))
  obtain ⟨same, hsame, hlacking⟩ := decisionsFrom_of_objects document.path 0 hobjects
  rw [decisionsOf_of_holdsDecisions hothers, hsame] at h
  cases h
  exact hlacking

theorem holdsDecisions_unique {document : Document} {items others : List Json}
    (h : HoldsDecisions document items) (hothers : HoldsDecisions document others) :
    items = others := by
  obtain ⟨members, ⟨_, hread⟩, hitems⟩ := h
  obtain ⟨same, ⟨_, hsame⟩, hsecond⟩ := hothers
  rw [hread] at hsame
  cases hsame
  rcases hitems with hfound | ⟨hnone, rfl⟩ <;>
    rcases hsecond with hother | ⟨habsent, rfl⟩ <;> simp_all

theorem isFramed_report (document : Document) (decisions : List Decision) :
    (report document decisions).IsFramed where
  successLine := by simp [report, Report.failAll_eq, Report.record, Report.withHeader,
    Report.fresh, successLine, SingleLine]
  header := by simp [report, Report.failAll_eq, header, SingleLine]

theorem messages_report (document : Document) {items : List Json}
    {decisions : List Decision}
    (h : decisions.flatMap Decision.violations = items.flatMap lackingViolations) :
    (report document decisions).messages =
      (items.flatMap lackingViolations).map Violation.message := by
  simp [Report.messages, (report_spec document h).2.2]

/-- The messages on a ledger are single lines exactly if the ids are. -/
theorem singleLine_messages_iff {document : Document} {decisions : List Decision}
    (h : decisionsOf document = .ok decisions) :
    (∀ message ∈ (report document decisions).messages, SingleLine message) ↔
      ∀ items, HoldsDecisions document items → HasLinedIds items := by
  obtain ⟨⟨items, hholds⟩, hviolations⟩ := holdsDecisions_of_decisionsOf h
  rw [messages_report document (hviolations items hholds), List.forall_mem_map,
    singleLine_lackingViolations_iff]
  constructor
  · intro hlined others hothers
    rwa [holdsDecisions_unique hothers hholds]
  · intro hlined
    exact hlined items hholds

end Approvals

/-- Under a configuration of single lines the text of a report can be read line by
line, except where the approval gate reports on decisions whose ids break a line:
there it cannot. -/
theorem Gate.text_is_line_oriented_iff {source : Source} {config : Config} {gate : Gate}
    {report : Report} (hconfig : ∀ text ∈ config.texts, SingleLine text)
    (hrun : gate.run source config = .ok report) :
    LineOriented report (emit gate.name (.ok report) .text) ↔
      (gate = .approvals → ∀ document,
        source.load config.approvals.ledger = .ok (some document) →
        ∀ items, Approvals.HoldsDecisions document items →
          Approvals.HasLinedIds items) := by
  have hlined (h : report.IsLined) :
      LineOriented report (emit gate.name (.ok report) .text) :=
    (lineOriented_iff h.toIsFramed).mpr h.messages
  cases gate with
  | freeze =>
    have hreport := Freeze.isLined_of_run
      (fun text hm => hconfig text (by simp [Config.texts, hm])) hrun
    simp [hlined hreport]
  | schema =>
    have hreport := Schema.isLined_of_run
      (fun text hm => hconfig text (by simp [Config.texts, hm])) hrun
    simp [hlined hreport]
  | evidence family =>
    have hreport : report.IsLined := by
      simp only [Gate.run] at hrun
      split at hrun
      · cases hrun
      · next entry hentry =>
        have htexts : ∀ text ∈ entry.texts, SingleLine text := by
          intro text htext
          apply hconfig
          simp only [Config.texts, List.mem_append, List.mem_flatMap]
          exact .inr ⟨entry, (Config.of_family_eq_ok hentry).1, htext⟩
        have hsuccess : SingleLine (Evidence.successLine entry.family) := by
          have hfamily := htexts entry.family (by simp [EvidenceConfig.texts])
          have hwords : SingleLine " controls evidence check passed" := by
            simp [SingleLine]
          exact singleLine_append.mpr ⟨hfamily, hwords⟩
        exact Evidence.isLined_of_check htexts (fun _ hm => hm)
          (Report.isLined_fresh hsuccess) hrun
    simp [hlined hreport]
  | approvals =>
    simp only [Gate.run, Approvals.run] at hrun
    split at hrun
    · cases hrun
    · next hload =>
      cases hrun
      have hledger : SingleLine config.approvals.ledger :=
        hconfig _ (by simp [Config.texts, ApprovalsConfig.texts])
      have hreport : (Approvals.missingReport config.approvals.ledger).IsLined :=
        (Report.isLined_fresh (by decide)).fail _
          (Violation.singleLine_missingArtifact hledger)
      simp [hlined hreport, hload]
    · next document hload =>
      obtain ⟨decisions, hdecisions, rfl⟩ := map_eq_ok_iff.mp hrun
      have hframed := Approvals.isFramed_report document decisions
      have horiented := (lineOriented_iff hframed).trans
        (Approvals.singleLine_messages_iff hdecisions)
      have hsame : ∀ other, source.load config.approvals.ledger = .ok (some other) ↔
          document = other := by simp [hload]
      simp only [true_implies, hsame, forall_eq']
      exact horiented

/-- A ledger that holds these items and nothing else. -/
def ledgerDocument (items : List Json) : Document :=
  ⟨"ledger.json", (Json.object [("decisions", .array items)]).text⟩

/-- A source where every path leads to the same text. -/
def ledgerSource (items : List Json) : Source :=
  ⟨fun _ => true, fun _ => .ok (some (ledgerDocument items).content)⟩

theorem holdsDecisions_ledgerDocument {items : List Json}
    (h : ∀ item ∈ items, Json.Readable 125 item) :
    Approvals.HoldsDecisions (ledgerDocument items) items := by
  refine ⟨[("decisions", .array items)], ⟨?_, ?_⟩, .inl rfl⟩
  · change structuredEnding <:+ "ledger.json".toList
    decide
  · apply Json.read_text
    apply Json.Readable.object 126
    · simp
    · simpa using Json.Readable.array 125 items h

/-- What is reported on such a ledger. -/
theorem exists_report_on_ledger {items : List Json}
    (hreadable : ∀ item ∈ items, Json.Readable 125 item)
    (hobjects : ∀ item ∈ items, item.isObject = true) :
    ∃ report, Gate.approvals.run (ledgerSource items) Pipeline.twoFamilies =
        .ok report ∧ report.header = some Approvals.header ∧
      report.messages =
        (items.flatMap Approvals.lackingViolations).map Violation.message := by
  have hdecisions := Approvals.decisionsOf_of_holdsDecisions
    (holdsDecisions_ledgerDocument hreadable)
  obtain ⟨decisions, hread, hlacking⟩ :=
    Approvals.decisionsFrom_of_objects (ledgerDocument items).path 0 hobjects
  refine ⟨Approvals.report (ledgerDocument items) decisions, ?_,
    (Approvals.report_spec _ hlacking).1, Approvals.messages_report _ hlacking⟩
  have hload : (ledgerSource items).load Pipeline.twoFamilies.approvals.ledger =
      .ok (some (ledgerDocument items)) := rfl
  simp [Gate.run, Approvals.run, hload, hdecisions, hread, Except.map]

/-- Ids of two kinds. The one that breaks a line is that of an approved decision.
-/
def tamedItems : List Json :=
  [.object [("control_impact", .boolean true), ("id", .array [.string "D-1\nD-2"])],
    .object [("finance_approved", .boolean true), ("financial_impact", .boolean true),
      ("id", .string "D-3\nD-4")]]

theorem tamed_ledger_is_line_oriented :
    (∀ text ∈ Pipeline.twoFamilies.texts, SingleLine text) ∧
      ∃ report, Gate.approvals.run (ledgerSource tamedItems) Pipeline.twoFamilies =
          .ok report ∧
        report.messages = ["[\"D-1\\nD-2\"]: controls approval missing"] ∧
        LineOriented report (emit Gate.approvals.name (.ok report) .text) := by
  have htexts : ∀ text ∈ Pipeline.twoFamilies.texts, SingleLine text := by
    decide +kernel
  have hreadable : ∀ item ∈ tamedItems, Json.Readable 125 item := by
    simp only [tamedItems, List.forall_mem_cons]
    refine ⟨.object 124 _ (by decide) ?_, .object 124 _ (by decide) ?_, by simp⟩
    · simpa [Json.Readable.boolean] using
        Json.Readable.array 123 [.string "D-1\nD-2"] (by simp [Json.Readable.string])
    · simp [Json.Readable.boolean, Json.Readable.string]
  obtain ⟨report, hrun, _, hmessages⟩ :=
    exists_report_on_ledger hreadable (by decide)
  refine ⟨htexts, report, hrun, hmessages.trans (by decide +kernel),
    (Gate.text_is_line_oriented_iff htexts hrun).mpr ?_⟩
  intro _ document hload items hitems
  cases hload
  rw [Approvals.holdsDecisions_unique hitems (holdsDecisions_ledgerDocument hreadable),
    Approvals.HasLinedIds]
  simp only [tamedItems, List.forall_mem_cons]
  refine ⟨?_, ?_, by simp⟩
  · intro approval _ id hid
    cases hid
  · intro approval hlacks
    cases approval <;> exact absurd hlacks (by decide)

/-- One decision, whose id ends a line and begins another one. -/
def forgedItems : List Json :=
  [.object [("financial_impact", .boolean true),
    ("id", .string "D-1\n- D-2: controls approval missing")]]

theorem forged_ledger_adds_line :
    (∀ text ∈ Pipeline.twoFamilies.texts, SingleLine text) ∧
      ∃ report, Gate.approvals.run (ledgerSource forgedItems) Pipeline.twoFamilies =
          .ok report ∧
        report.messages =
          ["D-1\n- D-2: controls approval missing: finance approval missing"] ∧
        Prints (emit Gate.approvals.name (.ok report) .text).stderr
          ["impact approval check failed:", "- D-1",
            "- D-2: controls approval missing: finance approval missing"] ∧
        ¬LineOriented report (emit Gate.approvals.name (.ok report) .text) := by
  have hreadable : ∀ item ∈ forgedItems, Json.Readable 125 item := by
    refine List.forall_mem_singleton.mpr (.object 124 _ (by decide) ?_)
    simp [Json.Readable.boolean, Json.Readable.string]
  obtain ⟨report, hrun, hheader, hfound⟩ :=
    exists_report_on_ledger hreadable (by decide)
  have hmessages : report.messages =
      ["D-1\n- D-2: controls approval missing: finance approval missing"] :=
    hfound.trans (by decide +kernel)
  have hlength : report.findings.length = 1 := by
    simpa [Report.messages] using congrArg List.length hmessages
  have hfailed : report.passed = false := by
    rw [Report.passed, List.isEmpty_eq_false_iff, ← List.length_pos_iff, hlength]
    decide
  have hprints : Prints (reportText report).stderr
      ["impact approval check failed:", "- D-1",
        "- D-2: controls approval missing: finance approval missing"] := by
    rw [reportText_of_failed hfailed, hheader, hmessages]
    constructor <;> decide +kernel
  refine ⟨by decide +kernel, report, hrun, hmessages, hprints, ?_⟩
  -- Three lines were printed where one finding below a header makes two.
  intro horiented
  obtain ⟨_, details, hdetails, _, htwo⟩ := horiented.onFailure hfailed
  have hcount := (count_of_prints hprints).symm.trans (count_of_prints htwo)
  simp [hheader, hdetails, hlength] at hcount

end Compliance
