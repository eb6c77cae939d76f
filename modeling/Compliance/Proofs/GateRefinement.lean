import Compliance.Gate
import Compliance.Proofs.RequirementVerdicts

/-!
Gates against the requirements they stand for. A gate loads a document once and
checks all its requirements on it; the plain reading of a list of requirements
evaluates them from left to right, each with a load of its own. Both agree for
every source: the freeze gate gathers all that its requirements find, the schema
gate and the evidence gates stop at the first requirement that yields an error
or a finding.
-/

namespace Compliance

/-- A gate came to an end with a report that has no findings. -/
def Passes (result : Except GateError Report) : Prop :=
  ∃ report, result = .ok report ∧ report.findings = []

/-- A gate stops at the first of its requirements that is not simply met: with
its error, or with a report on the first thing it finds and nothing else. If all
of them are met the gate passes. -/
structure StopsAtFirst (source : Source) (requirements : List Requirement)
    (result : Except GateError Report) : Prop where
  onError : ∀ before requirement behind error,
    requirements = before ++ requirement :: behind →
    (∀ earlier ∈ before, earlier.evaluate source = .ok []) →
    requirement.evaluate source = .error error → result = .error error
  onFinding : ∀ before requirement behind violation others,
    requirements = before ++ requirement :: behind →
    (∀ earlier ∈ before, earlier.evaluate source = .ok []) →
    requirement.evaluate source = .ok (violation :: others) →
    ∃ report, result = .ok report ∧ report.violations = [violation]
  otherwise : (∀ requirement ∈ requirements, requirement.evaluate source = .ok []) →
    Passes result

namespace Requirement

/-- The first violation of several requirements, each evaluated against the
source. -/
def firstFinding (source : Source) :
    List Requirement → Except GateError (Option Violation)
  | [] => .ok none
  | requirement :: rest =>
    match requirement.evaluate source with
    | .error error => .error error
    | .ok (violation :: _) => .ok (some violation)
    | .ok [] => firstFinding source rest

theorem firstFinding_of_met {source : Source} {requirements : List Requirement}
    (h : ∀ requirement ∈ requirements, requirement.evaluate source = .ok []) :
    firstFinding source requirements = .ok none := by
  induction requirements with
  | nil => rfl
  | cons requirement rest ih =>
    have hhead : requirement.evaluate source = .ok [] := h requirement (by simp)
    have hrest := ih fun other hm => h other (List.mem_cons_of_mem requirement hm)
    simp only [firstFinding, hhead]
    exact hrest

theorem firstFinding_append (source : Source) (first second : List Requirement) :
    firstFinding source (first ++ second) =
      match firstFinding source first with
      | .error error => .error error
      | .ok (some violation) => .ok (some violation)
      | .ok none => firstFinding source second := by
  induction first with
  | nil => rfl
  | cons requirement rest ih =>
    simp only [List.cons_append, firstFinding]
    cases hevaluate : requirement.evaluate source with
    | error error => rfl
    | ok found =>
      cases found with
      | nil => exact ih
      | cons violation others => rfl

/-- Requirements on the content of the document at one path. -/
def OnPath (path : String) (requirements : List Requirement) : Prop :=
  ∀ requirement ∈ requirements, requirement.ReadsContent ∧ requirement.path = path

theorem firstFinding_unreadable {source : Source} {path : String}
    {requirement : Requirement}
    {rest : List Requirement} {error : GateError}
    (hpath : OnPath path (requirement :: rest))
    (hload : source.load path = .error error) :
    firstFinding source (requirement :: rest) = .error error := by
  obtain ⟨hcontent, rfl⟩ := hpath requirement (by simp)
  simp [firstFinding, evaluate_unreadable hcontent hload]

theorem firstFinding_absent {source : Source} {path : String}
    {requirement : Requirement}
    {rest : List Requirement} (hpath : OnPath path (requirement :: rest))
    (hload : source.load path = .ok none) :
    firstFinding source (requirement :: rest) =
      .ok (some (.missingArtifact path)) := by
  obtain ⟨hcontent, rfl⟩ := hpath requirement (by simp)
  simp [firstFinding, evaluate_absent hcontent hload]

/-- Reloading a document for each of its requirements finds what a single load
finds. -/
theorem firstFinding_loaded {source : Source} {path : String}
    {requirements : List Requirement}
    {document : Document} (hpath : OnPath path requirements)
    (hload : source.load path = .ok (some document)) :
    firstFinding source requirements = firstViolation document requirements := by
  induction requirements with
  | nil => rfl
  | cons requirement rest ih =>
    obtain ⟨hcontent, hsame⟩ := hpath requirement (by simp)
    have hevaluate := evaluate_loaded hcontent (hsame ▸ hload)
    have hrest :=
      ih fun other hm => hpath other (List.mem_cons_of_mem requirement hm)
    simp only [firstFinding, firstViolation, hevaluate]
    cases requirement.evaluateDocument document with
    | error error => rfl
    | ok found =>
      cases found with
      | nil => exact hrest
      | cons violation others => rfl

end Requirement

/-- A result carries over what plain evaluation found: its error, its first
violation alone, or nothing. -/
def CarriesOver (found : Except GateError (Option Violation))
    (result : Except GateError Report) : Prop :=
  match found with
  | .error error => result = .error error
  | .ok (some violation) =>
    ∃ report, result = .ok report ∧ report.violations = [violation]
  | .ok none => Passes result

theorem StopsAtFirst.of_carriesOver {source : Source}
    {requirements : List Requirement}
    {result : Except GateError Report}
    (h : CarriesOver (Requirement.firstFinding source requirements) result) :
    StopsAtFirst source requirements result where
  onError before requirement behind error hsplit hmet herror := by
    have hfirst : Requirement.firstFinding source requirements = .error error := by
      rw [hsplit, Requirement.firstFinding_append,
        Requirement.firstFinding_of_met hmet]
      simp [Requirement.firstFinding, herror]
    rw [hfirst] at h
    exact h
  onFinding before requirement behind violation others hsplit hmet hfound := by
    have hfirst :
        Requirement.firstFinding source requirements = .ok (some violation) := by
      rw [hsplit, Requirement.firstFinding_append,
        Requirement.firstFinding_of_met hmet]
      simp [Requirement.firstFinding, hfound]
    rw [hfirst] at h
    exact h
  otherwise hmet := by
    rw [Requirement.firstFinding_of_met hmet] at h
    exact h

namespace Schema

theorem requirements_onPath (config : SchemaConfig) :
    Requirement.OnPath config.path (requirements config) := by
  simp [Requirement.OnPath, requirements, Requirement.ReadsContent,
    Requirement.path]

theorem run_carriesOver (source : Source) (config : SchemaConfig) :
    CarriesOver (Requirement.firstFinding source (requirements config))
      (run source config) := by
  have hpath := requirements_onPath config
  unfold run
  cases hload : source.load config.path with
  | error error =>
    rw [requirements, Requirement.firstFinding_unreadable hpath hload]
    rfl
  | ok loaded =>
    cases loaded with
    | none =>
      rw [requirements, Requirement.firstFinding_absent hpath hload]
      exact ⟨_, rfl, rfl⟩
    | some document =>
      rw [Requirement.firstFinding_loaded hpath hload]
      simp only
      cases Requirement.firstViolation document (requirements config) with
      | error error => rfl
      | ok found =>
        cases found with
        | none => exact ⟨report document none, rfl, rfl⟩
        | some violation => exact ⟨report document (some violation), rfl, rfl⟩

end Schema

namespace Evidence

theorem requirements_onPath (config : EvidenceConfig) (entry : EvidenceDocument) :
    Requirement.OnPath entry.path (requirements config entry) := by
  unfold requirements
  cases config.forbiddenMarker with
  | none => simp [Requirement.OnPath, Requirement.ReadsContent, Requirement.path]
  | some marker =>
    simp [Requirement.OnPath, Requirement.ReadsContent, Requirement.path]

/-- There is at least the requirement on snippets, so an entry that cannot be
loaded is always noticed. -/
theorem requirements_eq_cons (config : EvidenceConfig) (entry : EvidenceDocument) :
    ∃ requirement rest, requirements config entry = requirement :: rest :=
  List.exists_cons_of_ne_nil (by simp [requirements])

theorem check_carriesOver (source : Source) (config : EvidenceConfig)
    (entries : List EvidenceDocument)
    (report : Report) (hclean : report.findings = []) :
    CarriesOver (Requirement.firstFinding source
      (entries.flatMap (requirements config)))
      (check source config report entries) := by
  induction entries generalizing report with
  | nil => exact ⟨report, rfl, hclean⟩
  | cons entry rest ih =>
    have hpath := requirements_onPath config entry
    obtain ⟨requirement, others, hcons⟩ := requirements_eq_cons config entry
    rw [List.flatMap_cons, Requirement.firstFinding_append]
    unfold check
    cases hload : source.load entry.path with
    | error error =>
      rw [hcons] at hpath ⊢
      rw [Requirement.firstFinding_unreadable hpath hload]
      rfl
    | ok loaded =>
      cases loaded with
      | none =>
        rw [hcons] at hpath ⊢
        rw [Requirement.firstFinding_absent hpath hload]
        exact ⟨_, rfl, by simp [Report.violations, hclean]⟩
      | some document =>
        rw [Requirement.firstFinding_loaded hpath hload]
        simp only
        cases Requirement.firstViolation document (requirements config entry) with
        | error error => rfl
        | ok found =>
          cases found with
          | none => exact ih (report.record document) hclean
          | some violation => exact ⟨_, rfl, by simp [Report.violations, hclean]⟩

end Evidence

namespace Freeze

/-- If every requirement has a result, the findings of the gate are the results
one after the other. -/
theorem check_of_results {source : Source} {requirements : List Requirement}
    {results : List (List Violation)}
    (h : requirements.map (·.evaluate source) = results.map .ok) (report : Report) :
    check source report requirements =
      .ok (report.failAll line results.flatten) := by
  induction requirements generalizing results report with
  | nil =>
    have hnone : results = [] := by simpa using h.symm
    simp [hnone, check, Report.failAll]
  | cons requirement rest ih =>
    cases results with
    | nil => simp at h
    | cons violations others =>
      simp only [List.map_cons, List.cons.injEq] at h
      obtain ⟨hhead, hrest⟩ := h
      simp only [check, hhead]
      rw [ih hrest, List.flatten_cons, Report.failAll_append]

theorem evaluate_requirements (source : Source) (config : FreezeConfig) :
    (requirements config).map (·.evaluate source) =
      (config.requiredPaths.map (Requirement.checkExistence source)).map .ok := by
  simp [requirements, Requirement.evaluate]

theorem run_eq (source : Source) (config : FreezeConfig) :
    run source config =
      .ok (((Report.fresh gateName successLine).withHeader header).failAll line
      (config.requiredPaths.map (Requirement.checkExistence source)).flatten) :=
  check_of_results (evaluate_requirements source config) _

end Freeze

/-- Every gate agrees with the plain evaluation of its requirements, for every
source and every configuration. The freeze gate always reports, and it reports
all that its requirements find; the schema gate and the evidence gates stop at
the first requirement that is not met. -/
theorem gates_refine_requirements (source : Source) :
    (∀ config : FreezeConfig, ∃ (report : Report) (results : List (List Violation)),
      Freeze.run source config = .ok report ∧
        (Freeze.requirements config).map (·.evaluate source) = results.map .ok ∧
        report.violations = results.flatten) ∧
      (∀ config : SchemaConfig,
        StopsAtFirst source (Schema.requirements config)
          (Schema.run source config)) ∧
      ∀ config : EvidenceConfig,
        StopsAtFirst source
          (config.documents.flatMap (Evidence.requirements config))
          (Evidence.run source config) := by
  refine ⟨?_, ?_, ?_⟩
  · intro config
    refine ⟨_, _, Freeze.run_eq source config,
      Freeze.evaluate_requirements source config, ?_⟩
    rw [Report.violations_failAll]
    rfl
  · intro config
    exact .of_carriesOver (Schema.run_carriesOver source config)
  · intro config
    exact .of_carriesOver
      (Evidence.check_carriesOver source config config.documents _ rfl)

end Compliance
