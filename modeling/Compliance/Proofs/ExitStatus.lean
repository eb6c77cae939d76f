import Compliance.Proofs.Attempts
import Compliance.Proofs.PathWalks
import Compliance.Proofs.RunAccounts

/-!
The exit status of a run, which is all that a build looks at. It is zero exactly
when the selected configuration is there and what the command line asks for
succeeds; the format and the verbosity have no part in it.
-/

namespace Compliance

namespace FileTree

theorem read_eq_ok_iff {files : FileTree} {path text : String} :
    files.read path = .ok text ↔
      ∃ place bytes, files.locate path = .ok place ∧ place.node = .file bytes ∧
        String.fromUTF8? bytes = some text := by
  unfold read
  cases files.locate path with
  | error cause => simp [Except.bind]
  | ok place =>
    simp only [Except.bind, Except.ok.injEq, exists_and_left, exists_eq_left']
    cases place.node with
    | directory entries => simp
    | file bytes => cases hdecoded : String.fromUTF8? bytes <;> simp [hdecoded]

/-- The text in which a configuration is looked for: the built-in document, or
the file that a path leads to. -/
def HoldsConfigText (files : FileTree) : Option String → String → Prop
  | none, text => Assets.text? Assets.defaultConfigName = some text
  | some path, text => ∃ place bytes, files.locate path = .ok place ∧
      place.node = .file bytes ∧ String.fromUTF8? bytes = some text

/-- The selected text spells this configuration, and it keeps the rules. -/
def Selects (files : FileTree) (path : Option String) (config : Config) : Prop :=
  ∃ text value, files.HoldsConfigText path text ∧ Toml.read? text = some value ∧
    Config.decode value = .ok config ∧ config.validate = .ok ()

end FileTree

theorem Config.ofToml_eq_ok_iff {document : String} {value : Toml} {config : Config} :
    ofToml document value = .ok config ↔
      decode value = .ok config ∧ config.validate = .ok () := by
  simp only [ofToml, bind_eq_ok_iff, mapError_eq_ok_iff]
  constructor
  · rintro ⟨decoded, hdecoded, _, hrules, hsame⟩
    obtain rfl : decoded = config := Except.ok.inj hsame
    exact ⟨hdecoded, hrules⟩
  · rintro ⟨hdecoded, hrules⟩
    exact ⟨config, hdecoded, (), hrules, rfl⟩

theorem Config.ofText_eq_ok_iff {document : String} {config : Config} :
    ofText document = .ok config ↔
      ∃ value, Toml.read? document = some value ∧ decode value = .ok config ∧
        config.validate = .ok () := by
  unfold ofText
  cases Toml.read? document with
  | none => simp
  | some value => simp [ofToml_eq_ok_iff]

namespace Output

theorem code_emit_le_one (gate : String) (result : Except GateError Report)
    (format : Format) : (emit gate result format).code ≤ 1 := by
  cases result with
  | error failure => cases format <;> simp [emit]
  | ok report =>
    have hcode : report.exitCode ≤ 1 := by
      unfold Report.exitCode
      split <;> simp
    cases format <;> exact hcode

theorem code_emit_eq_zero_iff {gate : String} {result : Except GateError Report}
    {format : Format} : (emit gate result format).code = 0 ↔ Passes result := by
  cases result with
  | error failure => cases format <;> simp [emit, Passes]
  | ok report =>
    have hcode : report.exitCode = 0 ↔ report.findings = [] := by
      simp [Report.exitCode, Report.passed_iff]
    cases format <;> simpa [emit, reportText, Passes] using hcode

end Output

namespace Command

theorem loadConfig_eq_ok_iff {files : FileAccess} {path : String} {config : Config} :
    loadConfig files path = .ok config ↔
      ∃ text, files.read path = .ok text ∧ Config.ofText text = .ok config := by
  unfold loadConfig
  cases files.read path with
  | error cause => simp
  | ok text => simp [mapError_eq_ok_iff]

theorem selectConfig_eq_ok_iff {files : FileTree} {path : Option String}
    {config : Config} :
    selectConfig files.access path = .ok config ↔ files.Selects path config := by
  cases path with
  | none =>
    simp only [selectConfig, embeddedConfig, mapError_eq_ok_iff,
      Config.ofText_eq_ok_iff, FileTree.Selects, FileTree.HoldsConfigText]
    simp [Assets.text?, Assets.documents]
  | some path =>
    have hread (text : String) : files.access.read path = .ok text ↔
        files.HoldsConfigText (some path) text := FileTree.read_eq_ok_iff
    simp only [selectConfig, mapError_eq_ok_iff, loadConfig_eq_ok_iff, hread,
      Config.ofText_eq_ok_iff, FileTree.Selects, exists_and_left]

/-- No gate of a run failed exactly when all of them passed: gates are skipped
only behind a failure. -/
theorem failed_run_eq_zero_iff {source : Source} {config : Config} :
    (Tally.ofOutcomes (Pipeline.run source config)).failed = 0 ↔
      ∀ ran ∈ Pipeline.run source config,
        ran.2.passed = true ∧ ran.2.isSkipped = false := by
  rw [failed_ofOutcomes, List.countP_eq_zero, List.forall_mem_map]
  constructor
  · intro hfailed ran hm
    by_cases hpasses : Passes (Freeze.run source config.freeze)
    · have hkept := hfailed ran hm
      rw [Pipeline.run_of_passes source config hpasses] at hm
      obtain ⟨gate, _, rfl⟩ := List.mem_map.mp hm
      simpa [GateLine.failed, GateLine.ofOutcome, Outcome.isSkipped] using hkept
    · have hfreeze := hfailed (.freeze, .ran (Freeze.run source config.freeze))
        (by simp [Pipeline.run_eq])
      rw [← Pipeline.passed_ran_iff] at hpasses
      simp [GateLine.failed, GateLine.ofOutcome, Outcome.isSkipped, hpasses] at hfreeze
  · intro hpassed ran hm
    simp [GateLine.failed, GateLine.ofOutcome, hpassed ran hm]

/-- What a task needs for the build to go on. -/
def Task.Succeeds (source : Source) (config : Config) : Task → Prop
  | .list => True
  | .gate asked => asked ∈ config.gates ∧ Passes (asked.run source config)
  | .all =>
    ∀ ran ∈ Pipeline.run source config,
      ran.2.passed = true ∧ ran.2.isSkipped = false

theorem code_perform_le_one (source : Source) (config : Config) (format : Format)
    (task : Task) : (perform source config format task).code ≤ 1 := by
  cases task with
  | list => simp [perform]
  | all =>
    simp only [perform, emitAll]
    split <;> simp
  | gate asked =>
    cases asked with
    | evidence family =>
      simp only [perform]
      split
      · simp
      · exact Output.code_emit_le_one _ _ _
    | _ => exact Output.code_emit_le_one _ _ _

theorem code_perform_eq_zero_iff {source : Source} {config : Config} {format : Format}
    {task : Task} :
    (perform source config format task).code = 0 ↔ task.Succeeds source config := by
  cases task with
  | list => simp [perform, Task.Succeeds]
  | all => simpa [perform, emitAll, Task.Succeeds] using failed_run_eq_zero_iff
  | gate asked =>
    cases asked with
    | evidence family =>
      simp only [perform, Task.Succeeds, Config.evidence_mem_gates_iff]
      cases config.family family with
      | error failure => simp
      | ok entry => simp [Output.code_emit_eq_zero_iff]
    | _ =>
      simp [perform, Task.Succeeds, Config.gates, Output.code_emit_eq_zero_iff]

theorem code_run (files : FileTree) (line : Line) :
    let source := (Workspace.mk (line.root.getD files.directoryPath) files.access).source
    let status := (run (.ofTree files) line).code
    status ≤ 1 ∧
      (status = 0 ↔
        ∃ config, files.Selects line.config config ∧
          line.task.Succeeds source config) := by
  intro source status
  simp only [← selectConfig_eq_ok_iff]
  cases hselected : selectConfig files.access line.config with
  | error message =>
    have hstatus : status = 1 := by
      simp [status, run, Surroundings.ofTree, hselected]
    simp [hstatus]
  | ok config =>
    have hstatus : status = (perform source config line.format line.task).code := by
      simp [status, run, Surroundings.ofTree, hselected, source]
    rw [hstatus]
    simp [code_perform_le_one, code_perform_eq_zero_iff]

/-- A build goes on exactly when the selected configuration is there and the task
succeeds under it; otherwise the status is one. -/
theorem execute_code_zero_iff (files : FileTree) {arguments : List String} {line : Line}
    (h : Line.ofArguments arguments = .ok line) :
    let source := (Workspace.mk (line.root.getD files.directoryPath) files.access).source
    let status := (execute (.ofTree files) arguments).code
    (status = 0 ∨ status = 1) ∧
      (status = 0 ↔
        ∃ config, files.Selects line.config config ∧
          line.task.Succeeds source config) ∧
      ∀ (format : Format) (verbosity : Nat),
        (run (.ofTree files) { line with format, verbosity }).code = status := by
  intro source status
  have hrun : status = (run (.ofTree files) line).code := by
    simp [status, execute, h]
  have hcode := code_run files line
  refine ⟨?_, ?_, ?_⟩
  · rw [hrun]
    omega
  · rw [hrun]
    exact hcode.2
  · intro format verbosity
    -- Neither option occurs in what decides between the two codes.
    have hother := code_run files { line with format, verbosity }
    have hsame := hother.2.trans hcode.2.symm
    rw [hrun]
    omega

/-- A configuration that asks for one contract, and for a ledger and a schema. -/
def contractConfig : Config where
  freeze := { requiredPaths := ["contract.md"] }
  approvals := { ledger := "ledger.json" }
  schema :=
    { path := "schema.json", requiredFields := .ofList ["id"],
      eventTypes := .ofList ["paid"] }

def contractSettings : String :=
  "freeze.required_paths = ['contract.md']
approvals.ledger = 'ledger.json'
schema.path = 'schema.json'
schema.required_fields = ['id']
schema.event_types = ['paid']"

/-- A release that holds its contract, its settings and nothing else. -/
def contractTree (settings : String) : FileTree where
  tree := .directory
    [("gates.toml", .file settings.toUTF8), ("contract.md", .file .empty)]
  directory := []

theorem contractTree_read (settings : String) :
    (contractTree settings).access.read "gates.toml" = .ok settings := by
  have hlocated : (contractTree settings).locate "gates.toml" =
      .ok ⟨.file settings.toUTF8, [(contractTree settings).tree]⟩ := by
    rfl
  exact FileTree.read_eq_ok_iff.mpr ⟨_, _, hlocated, rfl, fromUTF8?_toUTF8 settings⟩

theorem contractTree_selects_iff {settings : String} {config : Config} :
    (contractTree settings).Selects (some "gates.toml") config ↔
      Config.ofText settings = .ok config := by
  simp [← selectConfig_eq_ok_iff, selectConfig, mapError_eq_ok_iff,
    loadConfig_eq_ok_iff, contractTree_read]

/-- What the gates read when the settings are those of the release. -/
def contractSource : Source :=
  let tree := contractTree contractSettings
  (Workspace.mk tree.directoryPath tree.access).source

theorem contractSource_freeze_passes :
    Passes (Freeze.run contractSource contractConfig.freeze) := by
  have hthere : contractSource.has "contract.md" = true := by decide +kernel
  refine ⟨_, Freeze.run_eq _ _, ?_⟩
  simp [contractConfig, Requirement.checkExistence, hthere, Report.failAll]

theorem contractSource_approvals_fails :
    ¬Passes (Approvals.run contractSource contractConfig.approvals) := by
  have hread : (contractSource.read "ledger.json").toOption = some none := by
    decide +kernel
  have habsent : contractSource.load "ledger.json" = .ok none := by
    rw [Source.load, toOption_eq_some_iff.mp hread]
    rfl
  rintro ⟨report, hrun, hclean⟩
  simp only [Approvals.run, contractConfig, habsent] at hrun
  cases hrun
  cases hclean

theorem contractSettings_spells :
    Config.ofText contractSettings = .ok contractConfig :=
  toOption_eq_some_iff.mp (by decide +kernel)

theorem execute_code_of_contractTree :
    let tree := contractTree contractSettings
    Line.ofArguments ["--config", "gates.toml", "-v", "freeze", "--format=json"] =
        .ok ⟨none, some "gates.toml", .json, 1, .gate .freeze⟩ ∧
      (execute (.ofTree tree)
        ["--config", "gates.toml", "-v", "freeze", "--format=json"]).code = 0 ∧
      Line.ofArguments ["all", "--config", "gates.toml"] =
        .ok ⟨none, some "gates.toml", .text, 0, .all⟩ ∧
      (execute (.ofTree tree) ["all", "--config", "gates.toml"]).code = 1 := by
  intro tree
  have hfreeze : Line.ofArguments
      ["--config", "gates.toml", "-v", "freeze", "--format=json"] =
      .ok ⟨none, some "gates.toml", .json, 1, .gate .freeze⟩ := by rfl
  have hall : Line.ofArguments ["all", "--config", "gates.toml"] =
      .ok ⟨none, some "gates.toml", .text, 0, .all⟩ := by rfl
  have hpasses := contractSource_freeze_passes
  obtain ⟨_, hstatus, _⟩ := execute_code_zero_iff tree hfreeze
  obtain ⟨hcodes, hother, _⟩ := execute_code_zero_iff tree hall
  refine ⟨hfreeze, ?_, hall, ?_⟩
  · exact hstatus.mpr ⟨contractConfig,
      contractTree_selects_iff.mpr contractSettings_spells, by simp [Config.gates],
      hpasses⟩
  · refine hcodes.resolve_left fun hzero => ?_
    obtain ⟨config, hselected, hsucceeds⟩ := hother.mp hzero
    have hconfig : config = contractConfig := Except.ok.inj
      ((contractTree_selects_iff.mp hselected).symm.trans contractSettings_spells)
    subst hconfig
    have hran := Pipeline.run_of_passes contractSource contractConfig hpasses
    have happrovals := hsucceeds
      (.approvals, .ran (Approvals.run contractSource contractConfig.approvals))
      (by
        change _ ∈ Pipeline.run contractSource contractConfig
        rw [hran]
        simp [Config.gates, Gate.run])
    exact contractSource_approvals_fails (Pipeline.passed_ran_iff.mp happrovals.1)

end Command

end Compliance
