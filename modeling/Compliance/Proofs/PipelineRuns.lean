import Compliance.Pipeline
import Compliance.Proofs.Families
import Compliance.Proofs.GateRefinement

/-!
What a run of the pipeline amounts to. The run keeps one flag, which only the
freeze gate can raise and which skips every gate behind it. Gates are told apart
by their names, and under an accepted configuration every evidence gate finds
the entry that it was made from.
-/

namespace Compliance

namespace Gate

theorem name_injective : Function.Injective name := by
  intro first second h
  have hhead : first.name.toList.head? = second.name.toList.head? := by rw [h]
  cases first <;> cases second
  case evidence.evidence family other =>
    have hfamily : family = other := by simpa [name, Evidence.gateName] using h
    rw [hfamily]
  -- The fixed names and the prefix of the others begin with four different letters.
  all_goals
    simp [name, Freeze.gateName, Approvals.gateName, Schema.gateName,
      Evidence.gateName] at hhead ⊢

theorem run_evidence_of_mem {config : Config} {entry : EvidenceConfig}
    (h : config.validate = .ok ()) (hmember : entry ∈ config.evidence)
    (source : Source) :
    (evidence entry.family).run source config = Evidence.run source entry := by
  simp [run, Config.family_of_mem h hmember]

end Gate

theorem Config.gates_nodup {config : Config} (h : config.validate = .ok ()) :
    config.gates.Nodup := by
  have hfamilies :
      ((config.evidence.map EvidenceConfig.family).map Gate.evidence).Nodup :=
    (families_nodup h).map fun _ _ hsame => Gate.evidence.inj hsame
  rw [List.map_map] at hfamilies
  have hgates : (config.evidence.map fun entry => Gate.evidence entry.family).Nodup :=
    hfamilies
  simp [gates, hgates]

namespace Evidence

/-- The marker is looked for first, then the first snippet that is missing. Neither
search can fail. -/
theorem firstViolation_eq (config : EvidenceConfig) (entry : EvidenceDocument)
    (document : Document) :
    Requirement.firstViolation document (requirements config entry) =
      .ok (((config.forbiddenMarker.filter fun marker => document.contains marker.text).map
          fun marker =>
            .forbiddenMarkerPresent document.path marker.text marker.label).or
        ((entry.snippets.find? fun snippet => !document.contains snippet).map
          (.missingSnippet document.path))) := by
  have hsnippets :
      Requirement.firstViolation document [.snippetPresence entry.path entry.snippets] =
        .ok ((entry.snippets.find? fun snippet => !document.contains snippet).map
          (.missingSnippet document.path)) := by
    simp only [Requirement.firstViolation, Requirement.evaluateDocument,
      Requirement.checkSnippetsPresent, ← List.head?_filter]
    cases entry.snippets.filter fun snippet => !document.contains snippet <;> rfl
  unfold requirements
  cases config.forbiddenMarker with
  | none => exact hsnippets
  | some marker =>
    rw [List.cons_append, List.nil_append, Requirement.firstViolation, hsnippets]
    cases hoccurs : document.contains marker.text <;>
      simp [Requirement.evaluateDocument, Requirement.checkMarkerAbsent, hoccurs,
        Option.filter]

/-- The only errors of an evidence gate are those of loading its documents. -/
theorem load_error_of_check {source : Source} {config : EvidenceConfig}
    {error : GateError}
    {entries : List EvidenceDocument} {report : Report}
    (h : check source config report entries = .error error) :
    ∃ entry ∈ entries, source.load entry.path = .error error := by
  induction entries generalizing report with
  | nil => cases h
  | cons entry rest ih =>
    unfold check at h
    cases hload : source.load entry.path with
    | error failure =>
      rw [hload] at h
      cases h
      exact ⟨entry, by simp, hload⟩
    | ok loaded =>
      rw [hload] at h
      cases loaded with
      | none => cases h
      | some document =>
        obtain ⟨found, hfound⟩ : ∃ found,
            Requirement.firstViolation document (requirements config entry) = .ok found :=
          ⟨_, firstViolation_eq config entry document⟩
        simp only [hfound] at h
        cases found with
        | some violation => cases h
        | none =>
          obtain ⟨failing, hmember, hfailing⟩ := ih h
          exact ⟨failing, List.mem_cons_of_mem entry hmember, hfailing⟩

end Evidence

namespace Pipeline

variable (source : Source) (config : Config)

theorem runFrom_skipping (gates : List Gate) :
    runFrom source config true gates = gates.map fun gate => (gate, .skipped) := by
  induction gates with
  | nil => rfl
  | cons gate rest ih => simp [runFrom, ih]

/-- Without the freeze gate nothing raises the flag. -/
theorem runFrom_running {gates : List Gate} (h : .freeze ∉ gates) :
    runFrom source config false gates =
      gates.map fun gate => (gate, .ran (gate.run source config)) := by
  induction gates with
  | nil => rfl
  | cons gate rest ih =>
    obtain ⟨hgate, hrest⟩ := not_or.mp (mt List.mem_cons.mpr h)
    have hother : (gate == Gate.freeze) = false := by simpa using Ne.symm hgate
    simp [runFrom, hother, ih hrest]

theorem passed_ran_iff {result : Except GateError Report} :
    (Outcome.ran result).passed = true ↔ Passes result := by
  cases result with
  | error error => simp [Outcome.passed, Passes]
  | ok report => simp [Outcome.passed, Passes, Report.passed_iff]

theorem freeze_not_mem_tail : Gate.freeze ∉ config.gates.tail := by
  simp [Config.gates]

/-- The step of the freeze gate: it runs, and what is behind it runs or is
skipped as a whole. -/
theorem run_eq :
    run source config =
      (.freeze, .ran (Freeze.run source config.freeze)) ::
        runFrom source config
          (!(Outcome.ran (Freeze.run source config.freeze)).passed)
          config.gates.tail := by
  simp [run, Config.gates, runFrom, Gate.run]

theorem run_of_passes (h : Passes (Freeze.run source config.freeze)) :
    run source config =
      config.gates.map fun gate => (gate, .ran (gate.run source config)) := by
  have hpassed := passed_ran_iff.mpr h
  rw [run_eq, hpassed, Bool.not_true,
    runFrom_running source config (freeze_not_mem_tail config)]
  rfl

theorem run_of_not_passes (h : ¬Passes (Freeze.run source config.freeze)) :
    run source config =
      (.freeze, .ran (Freeze.run source config.freeze)) ::
        config.gates.tail.map fun gate => (gate, .skipped) := by
  have hfailed :
      (Outcome.ran (Freeze.run source config.freeze)).passed = false := by
    simpa using mt passed_ran_iff.mp h
  rw [run_eq, hfailed, Bool.not_false, runFrom_skipping]

theorem map_fst_run : (run source config).map Prod.fst = config.gates := by
  by_cases h : Passes (Freeze.run source config.freeze)
  · rw [run_of_passes source config h, List.map_map]
    exact List.map_id config.gates
  · rw [run_of_not_passes source config h, List.map_cons, List.map_map]
    exact congrArg (Gate.freeze :: ·) (List.map_id config.gates.tail)

/-- A gate is skipped, or it has run by itself. -/
theorem outcome_of_mem_run {source : Source} {config : Config} {ran : Gate × Outcome}
    (h : ran ∈ run source config) :
    ran.2 = .skipped ∨ ran.2 = .ran (ran.1.run source config) := by
  by_cases hpasses : Passes (Freeze.run source config.freeze)
  · rw [run_of_passes source config hpasses] at h
    obtain ⟨gate, _, rfl⟩ := List.mem_map.mp h
    exact .inr rfl
  · rw [run_of_not_passes source config hpasses] at h
    rcases List.mem_cons.mp h with rfl | hm
    · exact .inr rfl
    · obtain ⟨gate, _, rfl⟩ := List.mem_map.mp hm
      exact .inl rfl

/-- A run under an accepted configuration accounts for every gate once and in
order. Unless the freeze gate passes all others are skipped. If it passes none
is, and each family is checked by its own entry: the lookup by name always
succeeds, and an unknown gate can only be reported where the source itself
answers so. -/
theorem run_accounts_for_every_gate (h : config.validate = .ok ()) :
    (run source config).length = 3 + config.evidence.length ∧
      ((run source config).map fun ran => ran.1.name) =
        "freeze" :: "approvals" :: "schema" :: config.evidence.map
          (fun entry => "evidence." ++ entry.family) ∧
      ((run source config).map fun ran => ran.1.name).Nodup ∧
      (run source config)[0]? =
        some (.freeze, .ran (Freeze.run source config.freeze)) ∧
      (¬Passes (Freeze.run source config.freeze) →
        ∀ ran ∈ (run source config).tail, ran.2 = .skipped) ∧
      (Passes (Freeze.run source config.freeze) →
        (∀ ran ∈ run source config, ran.2 ≠ .skipped) ∧
          (run source config)[1]? =
            some (.approvals, .ran (Approvals.run source config.approvals)) ∧
          (run source config)[2]? =
            some (.schema, .ran (Schema.run source config.schema)) ∧
          ∀ (i : Nat) (entry : EvidenceConfig), config.evidence[i]? = some entry →
            (run source config)[3 + i]? =
                some (.evidence entry.family, .ran (Evidence.run source entry)) ∧
              config.family entry.family = .ok entry ∧
              ∀ name, Evidence.run source entry = .error (.unknownGate name) →
                ∃ document ∈ entry.documents,
                  source.load document.path = .error (.unknownGate name)) := by
  have hgates := map_fst_run source config
  have hnames : ((run source config).map fun ran => ran.1.name) =
      config.gates.map Gate.name := by
    rw [← hgates, List.map_map]
    rfl
  refine ⟨?_, ?_, ?_, ?_, ?_, ?_⟩
  · have hlength := congrArg List.length hgates
    simp only [List.length_map, Config.gates, List.length_cons] at hlength
    omega
  · rw [hnames]
    simp [Config.gates, Gate.name, Freeze.gateName, Approvals.gateName,
      Schema.gateName, Evidence.gateName]
  · rw [hnames]
    exact (Config.gates_nodup h).map Gate.name_injective
  · rw [run_eq]
    rfl
  · intro hfailed ran hmember
    rw [run_of_not_passes source config hfailed, List.tail_cons] at hmember
    obtain ⟨gate, _, rfl⟩ := List.mem_map.mp hmember
    rfl
  · intro hpasses
    have hrun := run_of_passes source config hpasses
    refine ⟨?_, ?_, ?_, ?_⟩
    · intro ran hmember
      rw [hrun] at hmember
      obtain ⟨gate, _, rfl⟩ := List.mem_map.mp hmember
      simp
    · rw [hrun]
      rfl
    · rw [hrun]
      rfl
    · intro i entry hentry
      have hmember : entry ∈ config.evidence := List.mem_of_getElem? hentry
      refine ⟨?_, Config.family_of_mem h hmember,
        fun name => Evidence.load_error_of_check⟩
      have hgate : config.gates[3 + i]? = some (.evidence entry.family) := by
        rw [Nat.add_comm]
        simp [Config.gates, hentry]
      rw [hrun, List.getElem?_map, hgate, Option.map_some,
        Gate.run_evidence_of_mem h hmember source]

def releaseFamily : EvidenceConfig where
  family := "release"
  forbiddenMarker := some { text := "Status: FAIL" }
  documents := [⟨"controls.md", ["signed off"]⟩]

/-- Two families that look for different texts in one document. -/
def twoFamilies : Config where
  freeze := { requiredPaths := ["controls.md"] }
  approvals := { ledger := "ledger.json" }
  schema :=
    { path := "schema.json", requiredFields := .ofList ["id"],
      eventTypes := .ofList ["paid"] }
  evidence :=
    [{ family := "access", documents := [⟨"controls.md", ["reviewed"]⟩] }, releaseFamily]

/-- Every document reads the same; whether it is said to exist is up to `there`.
-/
def reviewedSource (there : Bool) : Source :=
  ⟨fun _ => there, fun _ => .ok (some "reviewed")⟩

theorem run_accounts_for_two_families :
    twoFamilies.validate = .ok () ∧
      Passes (Freeze.run (reviewedSource true) twoFamilies.freeze) ∧
      (run (reviewedSource true) twoFamilies)[4]? =
        some (.evidence "release",
          .ran (Evidence.run (reviewedSource true) releaseFamily)) ∧
      (∀ name, Evidence.run (reviewedSource true) releaseFamily ≠
        .error (.unknownGate name)) ∧
      ¬Passes (Freeze.run (reviewedSource false) twoFamilies.freeze) ∧
      ∀ ran ∈ (run (reviewedSource false) twoFamilies).tail, ran.2 = .skipped := by
  have haccepted : twoFamilies.validate = .ok () := by decide
  have hpasses : Passes (Freeze.run (reviewedSource true) twoFamilies.freeze) :=
    ⟨_, rfl, rfl⟩
  have hfailed :
      ¬Passes (Freeze.run (reviewedSource false) twoFamilies.freeze) := by
    rintro ⟨report, hrun, hclean⟩
    cases hrun
    cases hclean
  obtain ⟨_, _, _, _, _, hruns⟩ :=
    run_accounts_for_every_gate (reviewedSource true) twoFamilies haccepted
  obtain ⟨_, _, _, _, hskips, _⟩ :=
    run_accounts_for_every_gate (reviewedSource false) twoFamilies haccepted
  have hrelease := (hruns hpasses).2.2.2 1 releaseFamily rfl
  refine ⟨haccepted, hpasses, hrelease.1, ?_, hfailed, ?_⟩
  · intro name herror
    obtain ⟨document, _, hload⟩ := hrelease.2.2 name herror
    cases hload
  · exact hskips hfailed

end Pipeline

end Compliance
