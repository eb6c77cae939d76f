import Compliance.Proofs.PipelineRuns

/-!
What the gates ask of a source: whether the required paths are there, and the
contents of the paths that hold documents. Sources that answer these alike give
the same outcomes.
-/

namespace Compliance

/-- The paths whose contents the gates of a configuration read. -/
def Config.contentPaths (config : Config) : List String :=
  config.approvals.ledger :: config.schema.path ::
    config.evidence.flatMap fun entry => entry.documents.map EvidenceDocument.path

/-- Two sources answer alike whatever a configuration asks. -/
structure Config.Alike (config : Config) (first second : Source) : Prop where
  has : ∀ path ∈ config.freeze.requiredPaths, first.has path = second.has path
  read : ∀ path ∈ config.contentPaths, first.read path = second.read path

theorem Source.load_congr {first second : Source} {path : String}
    (h : first.read path = second.read path) : first.load path = second.load path := by
  rw [load, load, h]

theorem Freeze.run_congr {first second : Source} {config : FreezeConfig}
    (h : ∀ path ∈ config.requiredPaths, first.has path = second.has path) :
    run first config = run second config := by
  have hresults : config.requiredPaths.map (Requirement.checkExistence first) =
      config.requiredPaths.map (Requirement.checkExistence second) := by
    apply List.map_congr_left
    intro path hpath
    rw [Requirement.checkExistence, Requirement.checkExistence, h path hpath]
  rw [run_eq, run_eq, hresults]

theorem Approvals.run_congr {first second : Source} {config : ApprovalsConfig}
    (h : first.read config.ledger = second.read config.ledger) :
    run first config = run second config := by
  rw [run, run, Source.load_congr h]

theorem Schema.run_congr {first second : Source} {config : SchemaConfig}
    (h : first.read config.path = second.read config.path) :
    run first config = run second config := by
  rw [run, run, Source.load_congr h]

theorem Evidence.check_congr {first second : Source} {config : EvidenceConfig}
    {entries : List EvidenceDocument}
    (h : ∀ entry ∈ entries, first.read entry.path = second.read entry.path)
    (report : Report) :
    check first config report entries = check second config report entries := by
  induction entries generalizing report with
  | nil => rfl
  | cons entry rest ih =>
    obtain ⟨hentry, hrest⟩ := List.forall_mem_cons.mp h
    simp only [check, Source.load_congr hentry, ih hrest]

theorem Config.mem_contentPaths {config : Config} {entry : EvidenceConfig}
    {document : EvidenceDocument} (hentry : entry ∈ config.evidence)
    (hdocument : document ∈ entry.documents) : document.path ∈ config.contentPaths := by
  have hpath : document.path ∈ entry.documents.map EvidenceDocument.path :=
    List.mem_map_of_mem hdocument
  simp only [contentPaths, List.mem_cons, List.mem_flatMap]
  exact .inr (.inr ⟨entry, hentry, hpath⟩)

/-- The paths whose contents a gate reads. -/
def Gate.Names (config : Config) (path : String) : Gate → Prop
  | freeze => False
  | approvals => config.approvals.ledger = path
  | schema => config.schema.path = path
  | evidence family =>
    ∃ entry ∈ config.evidence, entry.family = family ∧
      ∃ document ∈ entry.documents, document.path = path

instance (config : Config) (path : String) :
    (gate : Gate) → Decidable (gate.Names config path)
  | .freeze => isFalse id
  | .approvals => inferInstanceAs (Decidable (_ = _))
  | .schema => inferInstanceAs (Decidable (_ = _))
  | .evidence _ => inferInstanceAs (Decidable (∃ entry ∈ _, _ ∧ ∃ document ∈ _, _))

theorem Gate.Names.mem_contentPaths {config : Config} {path : String} {gate : Gate}
    (h : gate.Names config path) : path ∈ config.contentPaths := by
  cases gate with
  | freeze => exact h.elim
  | approvals =>
    obtain rfl := h
    simp [Config.contentPaths]
  | schema =>
    obtain rfl := h
    simp [Config.contentPaths]
  | evidence family =>
    obtain ⟨entry, hentry, _, document, hdocument, rfl⟩ := h
    exact Config.mem_contentPaths hentry hdocument

/-- A gate asks a source about a path: the freeze gate whether it is there, any other
gate what it holds. -/
inductive Gate.Asks (config : Config) (path : String) : Gate → Prop
  | presence (h : path ∈ config.freeze.requiredPaths) : Asks config path .freeze
  | content {gate : Gate} (h : gate.Names config path) : Asks config path gate

theorem Gate.Asks.mem_paths {config : Config} {path : String} {gate : Gate}
    (h : gate.Asks config path) :
    path ∈ config.freeze.requiredPaths ++ config.contentPaths := by
  cases h with
  | presence hrequired => exact List.mem_append_left _ hrequired
  | content hnames => exact List.mem_append_right _ hnames.mem_contentPaths

variable {config : Config} {first second : Source}

/-- Only the freeze gate looks whether paths are there; any other gate reads the
paths it names and no more. -/
theorem Gate.run_eq_of_asked {gate : Gate}
    (hhas : gate = freeze →
      ∀ path ∈ config.freeze.requiredPaths, first.has path = second.has path)
    (hread : ∀ path, gate.Names config path → first.read path = second.read path) :
    gate.run first config = gate.run second config := by
  cases gate with
  | freeze => exact Freeze.run_congr (hhas rfl)
  | approvals => exact Approvals.run_congr (hread _ rfl)
  | schema => exact Schema.run_congr (hread _ rfl)
  | evidence family =>
    simp only [run]
    cases hfamily : config.family family with
    | error failure => rfl
    | ok entry =>
      obtain ⟨hentry, hname⟩ := Config.of_family_eq_ok hfamily
      apply Evidence.check_congr
      intro document hdocument
      exact hread _ ⟨entry, hentry, hname, document, hdocument, rfl⟩

/-- A gate looks at no more of a source than whether the required paths are there and
what is read at the paths it names. -/
theorem Gate.run_eq_of_named {gate : Gate}
    (hhas : ∀ path ∈ config.freeze.requiredPaths, first.has path = second.has path)
    (hread : ∀ path, gate.Names config path → first.read path = second.read path) :
    gate.run first config = gate.run second config :=
  run_eq_of_asked (fun _ => hhas) hread

theorem Gate.run_congr (h : config.Alike first second) (gate : Gate) :
    gate.run first config = gate.run second config :=
  run_eq_of_named h.has fun path hnames => h.read path hnames.mem_contentPaths

theorem Pipeline.run_congr (h : config.Alike first second) :
    run first config = run second config := by
  have hfrom (skipping : Bool) (gates : List Gate) :
      runFrom first config skipping gates = runFrom second config skipping gates := by
    induction gates generalizing skipping with
    | nil => rfl
    | cons gate rest ih => simp only [runFrom, Gate.run_congr h gate, ih]
  exact hfrom false config.gates

end Compliance
