import Compliance.Proofs.MemoryContents
import Compliance.Proofs.RequiredPaths

/-!
What the freeze gate finds as a corpus grows and shrinks. It finds the required paths that
are not there, one by one in the order of the manifest. A document that comes makes no
path go, so the findings can only become fewer, and a document that is taken out can only
bring some back.
-/

namespace Compliance

namespace MemorySource

variable {memory : MemorySource} {path other content : String}

theorem has_insert_self : (memory.insert path content).has path = true :=
  has_of_content? (content?_insert_self memory path content)

/-- No path goes when a document comes. -/
theorem has_insert_of_has (h : memory.has other = true) (path content : String) :
    (memory.insert path content).has other = true := by
  obtain ⟨stored, text, hstored, hplace⟩ := has_iff_content?.mp h
  rw [has_iff_content?]
  by_cases hpath : stored = path
  · subst hpath
    exact ⟨stored, content, content?_insert_self memory stored content, hplace⟩
  · refine ⟨stored, text, ?_, hplace⟩
    rw [content?_insert_of_ne memory content hpath, hstored]

/-- What is there after a document was taken out was there before. -/
theorem has_of_has_remove (h : (memory.remove path).2.has other = true) :
    memory.has other = true := by
  obtain ⟨stored, text, hstored, hplace⟩ := has_iff_content?.mp h
  rw [has_iff_content?]
  by_cases hpath : stored = path
  · subst hpath
    cases (content?_erase_self memory stored).symm.trans hstored
  · exact ⟨stored, text, (content?_erase_of_ne memory hpath).symm.trans hstored, hplace⟩

/-- The corpus with documents put in one after the other. -/
def insertAll (memory : MemorySource) (documents : List (String × String)) :
    MemorySource :=
  documents.foldl (fun memory (path, content) => memory.insert path content) memory

theorem has_insertAll_of_has {documents : List (String × String)}
    (h : memory.has other = true) : (memory.insertAll documents).has other = true := by
  induction documents generalizing memory with
  | nil => exact h
  | cons document rest ih => exact ih (has_insert_of_has h document.1 document.2)

theorem has_insertAll_of_mem {documents : List (String × String)}
    (h : other ∈ documents.map Prod.fst) : (memory.insertAll documents).has other = true := by
  induction documents generalizing memory with
  | nil => cases h
  | cons document rest ih =>
    change ((memory.insert document.1 document.2).insertAll rest).has other = true
    rcases List.mem_cons.mp h with rfl | hrest
    · exact has_insertAll_of_has has_insert_self
    · exact ih hrest

end MemorySource

namespace Freeze

variable {config : FreezeConfig} {earlier later : Source}

/-- The required paths that are not there, in the order of the manifest. -/
def missingPaths (source : Source) (config : FreezeConfig) : List String :=
  config.requiredPaths.filter fun path => !source.has path

def missingFinding (path : String) : Finding := ⟨.missingArtifact path, path⟩

/-- The gate comes to an end, and these are its findings. -/
def Finds (source : Source) (config : FreezeConfig) (findings : List Finding) : Prop :=
  ∃ report, run source config = .ok report ∧ report.findings = findings

theorem flatten_checkExistence (source : Source) (paths : List String) :
    (paths.map (Requirement.checkExistence source)).flatten =
      (paths.filter fun path => !source.has path).map Violation.missingArtifact := by
  induction paths with
  | nil => rfl
  | cons path rest ih =>
    cases hpath : source.has path <;>
      simp [Requirement.checkExistence, hpath, ih]

theorem finds_missingPaths (source : Source) (config : FreezeConfig) :
    Finds source config ((missingPaths source config).map missingFinding) := by
  refine ⟨_, run_eq source config, ?_⟩
  rw [flatten_checkExistence, Report.failAll_eq]
  simp [missingPaths, missingFinding, line]

/-- Where more paths are there, fewer are missing. -/
theorem missingPaths_sublist (h : ∀ path, earlier.has path = true → later.has path = true) :
    (missingPaths later config).Sublist (missingPaths earlier config) := by
  apply List.monotone_filter_right
  intro path hmissing
  simp only [Bool.not_eq_true', ← Bool.not_eq_true] at hmissing ⊢
  exact mt (h path) hmissing

/-- What the gate finds follows the corpus. It finds as many paths missing as there are
places in the manifest whose path is not there. A document that comes leaves a part of
the findings, in their order, and one that is taken out adds to them. With a document put
in at each of the missing paths, in whatever order, the gate passes. -/
theorem findings_follow_corpus (config : FreezeConfig) (memory : MemorySource) :
    ∃ findings, Finds memory.source config findings ∧
      findings = (missingPaths memory.source config).map missingFinding ∧
      findings.length = config.requiredPaths.countP (fun path => !memory.has path) ∧
      (∀ path content, ∃ fewer,
        Finds (memory.insert path content).source config fewer ∧
          fewer.Sublist findings) ∧
      (∀ path, ∃ more, Finds (memory.remove path).2.source config more ∧
        findings.Sublist more) ∧
      ∀ documents : List (String × String),
        (∀ path ∈ config.requiredPaths, memory.has path = false →
          path ∈ documents.map Prod.fst) →
        Passes (run (memory.insertAll documents).source config) := by
  refine ⟨_, finds_missingPaths memory.source config, rfl, ?_, ?_, ?_, ?_⟩
  · rw [List.length_map, missingPaths, ← List.countP_eq_length_filter]
    rfl
  · intro path content
    refine ⟨_, finds_missingPaths _ config, List.Sublist.map _ (missingPaths_sublist ?_)⟩
    intro other hother
    exact MemorySource.has_insert_of_has hother path content
  · intro path
    refine ⟨_, finds_missingPaths _ config, List.Sublist.map _ (missingPaths_sublist ?_)⟩
    intro other hother
    exact MemorySource.has_of_has_remove hother
  · intro documents hdocuments
    rw [passes_iff]
    intro path hpath
    cases hthere : memory.has path with
    | true => exact MemorySource.has_insertAll_of_has hthere
    | false => exact MemorySource.has_insertAll_of_mem (hdocuments path hpath hthere)

/-- A manifest that asks for one file twice, and for a directory in two spellings. -/
def repetitiveManifest : FreezeConfig where
  requiredPaths := ["ledger.json", "controls/", "ledger.json", "controls", "schema.json"]

/-- Of the five places four lack their path, and three documents make up for them. -/
theorem findings_follow_corpus_of_repetitive :
    let memory := MemorySource.ofList [("schema.json", "{}")]
    let documents := [("controls", "list"), ("ledger.json", "[]"), ("controls/", "")]
    (∃ findings, Finds memory.source repetitiveManifest findings ∧ findings.length = 4) ∧
      (∀ path ∈ repetitiveManifest.requiredPaths, memory.has path = false →
        path ∈ documents.map Prod.fst) ∧
      Passes (run (memory.insertAll documents).source repetitiveManifest) := by
  intro memory documents
  have hcovers : ∀ path ∈ repetitiveManifest.requiredPaths, memory.has path = false →
      path ∈ documents.map Prod.fst := by decide
  obtain ⟨findings, hfinds, _, hlength, _, _, hpasses⟩ :=
    findings_follow_corpus repetitiveManifest memory
  exact ⟨⟨findings, hfinds, hlength.trans (by decide)⟩, hcovers, hpasses documents hcovers⟩

end Freeze

end Compliance
