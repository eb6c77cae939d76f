import Compliance.Proofs.AbsentDocuments
import Compliance.Proofs.EvidenceScans

/-!
What the freeze gate vouches for. A path that is there is a readable file, or it is a
directory or holds no text; so on a disk no gate behind a passing freeze gate finds a
required path missing, and one that cannot read it stops with the error.
-/

namespace Compliance

/-- What is there can be read unless it is a directory or no text. -/
theorem FileTree.read_of_has {files : FileTree} {path : String}
    (h : files.has path = true) :
    (∃ text, files.read path = .ok text) ∨
      ∃ cause, (cause = .isDirectory ∨ cause = .notUtf8) ∧
        files.read path = .error cause := by
  unfold has at h
  unfold read
  cases hplace : files.locate path with
  | error cause =>
    rw [hplace] at h
    cases h
  | ok place =>
    simp only [Except.bind]
    cases place.node with
    | directory entries => exact .inr ⟨.isDirectory, .inl rfl, rfl⟩
    | file bytes =>
      cases hdecoded : String.fromUTF8? bytes with
      | some text => exact .inl ⟨text, by simp [hdecoded]⟩
      | none => exact .inr ⟨.notUtf8, .inr rfl, by simp [hdecoded]⟩

theorem Workspace.load_of_has {files : FileTree} {root path : String}
    (h : files.has (join root path) = true) :
    (∃ text, files.read (join root path) = .ok text ∧
        (Workspace.mk root files.access).source.load path = .ok (some ⟨path, text⟩)) ∨
      ∃ cause, (cause = .isDirectory ∨ cause = .notUtf8) ∧
        (Workspace.mk root files.access).source.load path = .error (.io path cause) := by
  rcases FileTree.read_of_has h with ⟨text, hread⟩ | ⟨cause, hcause, hread⟩
  · refine .inl ⟨text, hread, ?_⟩
    simp [Source.load, source, read, resolve, FileTree.access, hread, Except.map]
  · refine .inr ⟨cause, hcause, ?_⟩
    rcases hcause with rfl | rfl <;>
      simp [Source.load, source, read, resolve, FileTree.access, hread, Except.map]

theorem Freeze.passes_iff {source : Source} {config : FreezeConfig} :
    Passes (run source config) ↔
      ∀ path ∈ config.requiredPaths, source.has path = true := by
  have hfound (path : String) :
      Requirement.checkExistence source path = [] ↔ source.has path = true := by
    simp [Requirement.checkExistence]
  rw [run_eq]
  simp [Passes, Report.failAll_eq, hfound]

/-! ## Where a missing artifact comes from -/

namespace Requirement

theorem missingArtifact_not_mem {requirement : Requirement} {document : Document}
    {found : List Violation} (h : requirement.evaluateDocument document = .ok found)
    (path : String) : .missingArtifact path ∉ found := by
  cases requirement with
  | existence other =>
    cases h
    simp
  | fieldCoverage other expected =>
    obtain ⟨value, _, rfl⟩ := map_eq_ok_iff.mp h
    unfold checkFieldCoverage
    dsimp only
    split <;> simp
  | enumEquality other pointer field expected =>
    obtain ⟨value, _, rfl⟩ := map_eq_ok_iff.mp h
    unfold checkEnumEquality
    dsimp only
    split <;> simp
  | snippetPresence other snippets =>
    cases h
    simp [checkSnippetsPresent]
  | snippetAbsence other marker label =>
    cases h
    unfold checkMarkerAbsent
    split <;> simp

/-- A document that has been loaded is not found missing. -/
theorem firstViolation_ne_missingArtifact {document : Document}
    {requirements : List Requirement} (path : String) :
    firstViolation document requirements ≠ .ok (some (.missingArtifact path)) := by
  induction requirements with
  | nil => simp [firstViolation]
  | cons requirement rest ih =>
    unfold firstViolation
    cases hfound : requirement.evaluateDocument document with
    | error failure => simp
    | ok found =>
      cases found with
      | nil => exact ih
      | cons violation others =>
        intro hsame
        cases hsame
        exact missingArtifact_not_mem hfound path List.mem_cons_self

end Requirement

namespace Approvals

theorem absent_of_missingArtifact {source : Source} {config : ApprovalsConfig}
    {made : Report} {path : String} (h : run source config = .ok made)
    (hmissing : .missingArtifact path ∈ made.violations) :
    path = config.ledger ∧ source.load config.ledger = .ok none := by
  rcases run_cases h with ⟨hload, rfl⟩ | ⟨document, decisions, _, _, rfl⟩
  · have hpath : path = config.ledger := by
      simpa [missingReport, Report.violations] using hmissing
    exact ⟨hpath, hload⟩
  · rw [report, Report.violations_failAll] at hmissing
    simp [Report.violations, Decision.violations] at hmissing

end Approvals

namespace Schema

theorem absent_of_missingArtifact {source : Source} {config : SchemaConfig}
    {made : Report} {path : String} (h : run source config = .ok made)
    (hmissing : .missingArtifact path ∈ made.violations) :
    path = config.path ∧ source.load config.path = .ok none := by
  rcases run_cases h with ⟨hload, rfl⟩ | ⟨document, found, _, hfound, rfl⟩
  · have hpath : path = config.path := by
      simpa [missingReport, Report.violations] using hmissing
    exact ⟨hpath, hload⟩
  · cases found with
    | none => simp [report, Report.violations] at hmissing
    | some violation =>
      have hviolation : violation = .missingArtifact path := by
        simpa [report, Report.violations, eq_comm] using hmissing
      rw [hviolation] at hfound
      exact absurd hfound (Requirement.firstViolation_ne_missingArtifact path)

end Schema

theorem Freeze.absent_of_missingArtifact {source : Source} {config : FreezeConfig}
    {made : Report} {path : String} (h : run source config = .ok made)
    (hmissing : .missingArtifact path ∈ made.violations) : source.has path = false := by
  simp only [run_eq, Except.ok.injEq] at h
  rw [← h, Report.violations_failAll] at hmissing
  simp only [Report.violations, Report.findings_withHeader, Report.findings_fresh,
    List.map_nil, List.nil_append, List.mem_flatten, List.mem_map] at hmissing
  obtain ⟨_, ⟨required, _, rfl⟩, hmember⟩ := hmissing
  unfold Requirement.checkExistence at hmember
  split at hmember
  · cases hmember
  · next habsent =>
    rw [Violation.missingArtifact.inj (List.mem_singleton.mp hmember)]
    simpa using habsent

theorem Evidence.absent_of_missingArtifact {source : Source} {config : EvidenceConfig}
    {made : Report} {path : String} (h : run source config = .ok made)
    (hmissing : .missingArtifact path ∈ made.violations) :
    ∃ before documents entry, StopsAt source config before documents entry .absent ∧
      path = entry.path := by
  rcases finds_or_stopsAt source config with ⟨documents, hfinds⟩ |
    ⟨before, documents, entry, trouble, hstops⟩
  · rw [run_of_finds hfinds] at h
    cases h
    cases hmissing
  · rw [run_of_stopsAt hstops] at h
    cases trouble with
    | absent =>
      cases h
      refine ⟨before, documents, entry, hstops, ?_⟩
      simpa [reportOn, Report.violations] using hmissing
    | unreadable failure => cases h
    | marked document marker =>
      cases h
      simp [reportOn, Report.violations] at hmissing
    | incomplete document snippet =>
      cases h
      simp [reportOn, Report.violations] at hmissing

namespace Gate

/-- A gate of a run gets as far as loading a path. An evidence gate does if nothing
is the matter with the entries in front. -/
inductive Reaches (source : Source) (config : Config) : Gate → String → Prop
  | ledger : Reaches source config .approvals config.approvals.ledger
  | schema : Reaches source config .schema config.schema.path
  | evidence {family : String} {entry : EvidenceConfig}
    {before behind : List EvidenceDocument} {documents : List Document}
    {document : EvidenceDocument} (hfamily : config.family family = .ok entry)
    (hposition : entry.documents = before ++ document :: behind)
    (hfinds : List.Forall₂ (Evidence.Finds source entry) before documents) :
    Reaches source config (.evidence family) document.path

variable {source : Source} {config : Config} {gate : Gate} {path : String}

/-- A gate stops with the error of a load that it gets to. -/
theorem run_of_reaches {failure : GateError} (h : gate.Reaches source config path)
    (hload : source.load path = .error failure) :
    gate.run source config = .error failure := by
  cases h with
  | ledger => simp [run, Approvals.run, hload]
  | schema => simp [run, Schema.run, hload]
  | @evidence family entry before behind documents document hfamily hposition hfinds =>
    have hstops : Evidence.StopsAt source entry before documents document
        (.unreadable failure) :=
      ⟨⟨behind, hposition⟩, hfinds, .unreadable hload⟩
    simp only [run, hfamily]
    exact Evidence.run_of_stopsAt hstops

/-- Only the freeze gate reports a path missing without having tried to load it. -/
theorem absent_of_missingArtifact {made : Report} (h : gate.run source config = .ok made)
    (hmissing : .missingArtifact path ∈ made.violations) :
    gate = .freeze ∧ source.has path = false ∨
      gate.Reaches source config path ∧ source.load path = .ok none := by
  cases gate with
  | freeze => exact .inl ⟨rfl, Freeze.absent_of_missingArtifact h hmissing⟩
  | approvals =>
    obtain ⟨rfl, hload⟩ := Approvals.absent_of_missingArtifact h hmissing
    exact .inr ⟨.ledger, hload⟩
  | schema =>
    obtain ⟨rfl, hload⟩ := Schema.absent_of_missingArtifact h hmissing
    exact .inr ⟨.schema, hload⟩
  | evidence family =>
    simp only [run] at h
    split at h
    · cases h
    · next entry hfamily =>
      obtain ⟨before, documents, document, hstops, rfl⟩ :=
        Evidence.absent_of_missingArtifact h hmissing
      obtain ⟨behind, hposition⟩ := hstops.position
      cases hstops.suffers with
      | absent hload => exact .inr ⟨.evidence hfamily hposition hstops.finds, hload⟩

end Gate

namespace Pipeline

variable {source : Source} {config : Config} {outcome : Outcome}

theorem passes_of_passed (h : (Gate.freeze, outcome) ∈ run source config)
    (hpassed : outcome.passed = true) : Passes (Freeze.run source config.freeze) := by
  have houtcome : outcome = .skipped ∨
      outcome = .ran (Freeze.run source config.freeze) := outcome_of_mem_run h
  rcases houtcome with rfl | rfl
  · cases hpassed
  · exact passed_ran_iff.mp hpassed

theorem outcome_of_passes {gate : Gate}
    (hpasses : Passes (Freeze.run source config.freeze))
    (h : (gate, outcome) ∈ run source config) :
    outcome = .ran (gate.run source config) := by
  rw [run_of_passes source config hpasses] at h
  obtain ⟨other, _, hsame⟩ := List.mem_map.mp h
  cases hsame
  rfl

end Pipeline

/-- What a passing freeze gate guarantees on a disk. No outcome of the run reports a
required path as missing. A gate that gets as far as loading it obtains what the file
holds, or stops with the error of reading a directory or something that is no text. -/
theorem required_paths_are_not_missing (files : FileTree) (root : String)
    (config : Config) :
    let disk := (Workspace.mk root files.access).source
    (∃ outcome, (Gate.freeze, outcome) ∈ Pipeline.run disk config ∧
        outcome.passed = true) →
      ∀ path ∈ config.freeze.requiredPaths,
        (∀ gate report, (gate, .ran (.ok report)) ∈ Pipeline.run disk config →
          .missingArtifact path ∉ report.violations) ∧
        ((∃ text, files.read (Workspace.join root path) = .ok text ∧
            disk.load path = .ok (some ⟨path, text⟩)) ∨
          ∃ cause, (cause = .isDirectory ∨ cause = .notUtf8) ∧
            disk.load path = .error (.io path cause) ∧
            ∀ gate outcome, (gate, outcome) ∈ Pipeline.run disk config →
              gate.Reaches disk config path →
              outcome = .ran (.error (.io path cause))) := by
  rintro disk ⟨first, hfreeze, hpassed⟩ path hpath
  have hpasses := Pipeline.passes_of_passed hfreeze hpassed
  have hthere : files.has (Workspace.join root path) = true :=
    Freeze.passes_iff.mp hpasses path hpath
  have hload := Workspace.load_of_has hthere
  constructor
  · intro gate report hran hmissing
    have hrun : gate.run disk config = .ok report :=
      (Outcome.ran.inj (Pipeline.outcome_of_passes hpasses hran)).symm
    rcases Gate.absent_of_missingArtifact hrun hmissing with
      ⟨_, habsent⟩ | ⟨_, habsent⟩
    · cases hthere.symm.trans habsent
    · rcases hload with ⟨text, _, hfound⟩ | ⟨cause, _, hfailed⟩
      · cases habsent.symm.trans hfound
      · cases habsent.symm.trans hfailed
  · refine hload.imp_right ?_
    rintro ⟨cause, hcause, hfailed⟩
    refine ⟨cause, hcause, hfailed, ?_⟩
    intro gate outcome hran hreaches
    rw [Pipeline.outcome_of_passes hpasses hran, Gate.run_of_reaches hreaches hfailed]

/-- A draft whose controls are a directory, required as such and read as a schema. -/
def draftConfig : Config where
  freeze := { requiredPaths := ["controls/../ledger.json", "controls"] }
  approvals := { ledger := "controls/../ledger.json" }
  schema :=
    { path := "controls", requiredFields := .ofList ["id"],
      eventTypes := .ofList ["paid"] }

def draftTree : FileTree where
  tree := .directory
    [("ledger.json", .file "{}".toUTF8), ("controls", .emptyDirectory)]
  directory := []

theorem draft_paths_are_not_missing :
    let disk := (Workspace.mk "." draftTree.access).source
    (∃ outcome, (Gate.freeze, outcome) ∈ Pipeline.run disk draftConfig ∧
        outcome.passed = true) ∧
      (∀ gate report, (gate, .ran (.ok report)) ∈ Pipeline.run disk draftConfig →
        .missingArtifact "controls/../ledger.json" ∉ report.violations) ∧
      (Gate.schema, .ran (.error (.io "controls" .isDirectory))) ∈
        Pipeline.run disk draftConfig := by
  intro disk
  have hpasses : Passes (Freeze.run disk draftConfig.freeze) := by
    rw [Freeze.passes_iff]
    simp only [draftConfig, List.forall_mem_cons]
    decide +kernel
  have hfreeze : ∃ outcome, (Gate.freeze, outcome) ∈ Pipeline.run disk draftConfig ∧
      outcome.passed = true := by
    refine ⟨_, ?_, Pipeline.passed_ran_iff.mpr hpasses⟩
    rw [Pipeline.run_eq]
    exact List.mem_cons_self
  have hguaranteed := required_paths_are_not_missing draftTree "." draftConfig hfreeze
  refine ⟨hfreeze, (hguaranteed "controls/../ledger.json" (by simp [draftConfig])).1, ?_⟩
  have hdirectory : draftTree.read (Workspace.join "." "controls") =
      .error .isDirectory := by rfl
  have hload : disk.load "controls" = .error (.io "controls" .isDirectory) := by rfl
  have hran : (Gate.schema, .ran (Gate.schema.run disk draftConfig)) ∈
      Pipeline.run disk draftConfig := by
    rw [Pipeline.run_of_passes disk draftConfig hpasses]
    simp [Config.gates]
  rcases (hguaranteed "controls" (by simp [draftConfig])).2 with
    ⟨text, hread, _⟩ | ⟨cause, _, hfailed, hstops⟩
  · cases hdirectory.symm.trans hread
  · have hcause : cause = .isDirectory := by
      cases hload.symm.trans hfailed
      rfl
    have houtcome := hstops _ _ hran .schema
    rwa [houtcome, hcause] at hran

end Compliance
