import Compliance.Proofs.EvidenceScans
import Compliance.Proofs.Families

/-!
What documents without content can attest. A family passes exactly if the document of
each entry attests, and an empty document attests to empty snippets only. Validation
asks for documents and for snippets in each of them; it leaves open what a snippet
is, so a family that asks for nothing but empty snippets is accepted and passes.
-/

namespace Compliance.Evidence

variable {source : Source} {config : EvidenceConfig} {entry : EvidenceDocument}

theorem exists_forall₂_finds_iff {entries : List EvidenceDocument} :
    (∃ documents, List.Forall₂ (Finds source config) entries documents) ↔
      ∀ entry ∈ entries, ∃ document, Finds source config entry document := by
  induction entries with
  | nil => simp
  | cons entry rest ih =>
    rw [List.forall_mem_cons, ← ih]
    constructor
    · rintro ⟨_, hfinds⟩
      cases hfinds with
      | cons hentry hrest => exact ⟨⟨_, hentry⟩, _, hrest⟩
    · rintro ⟨⟨document, hentry⟩, documents, hrest⟩
      exact ⟨document :: documents, .cons hentry hrest⟩

/-- Whatever is the matter with an entry, the gate does not pass. -/
theorem Trouble.not_passes (trouble : Trouble) (documents : List Document) :
    ¬Passes (trouble.answer config entry documents) := by
  rintro ⟨report, hanswer, hclean⟩
  cases trouble <;> cases hanswer <;> cases hclean

/-- A family passes exactly if a document that attests is found for every entry. -/
theorem passes_iff_finds :
    Passes (run source config) ↔
      ∀ entry ∈ config.documents, ∃ document, Finds source config entry document := by
  rw [← exists_forall₂_finds_iff]
  constructor
  · intro hpasses
    rcases finds_or_stopsAt source config with
      hfinds | ⟨before, documents, entry, trouble, hstops⟩
    · exact hfinds
    · rw [run_of_stopsAt hstops] at hpasses
      exact absurd hpasses (trouble.not_passes documents)
  · rintro ⟨documents, hfinds⟩
    exact ⟨_, run_of_finds hfinds, rfl⟩

/-- A gate whose documents can all be loaded comes to an end. -/
theorem exists_report_of_loads
    (h : ∀ entry ∈ config.documents, ∃ document,
      source.load entry.path = .ok (some document)) :
    ∃ report, run source config = .ok report := by
  rcases finds_or_stopsAt source config with
    ⟨documents, hfinds⟩ | ⟨before, documents, entry, trouble, hstops⟩
  · exact ⟨_, run_of_finds hfinds⟩
  · obtain ⟨behind, hposition⟩ := hstops.position
    obtain ⟨document, hload⟩ := h entry (by simp [hposition])
    rw [run_of_stopsAt hstops]
    cases hstops.suffers with
    | unreadable hfails => cases hload.symm.trans hfails
    | absent habsent => cases hload.symm.trans habsent
    | marked => exact ⟨_, rfl⟩
    | incomplete => exact ⟨_, rfl⟩

/-- In an empty document nothing occurs but the empty text. -/
theorem attests_empty_iff {path : String} :
    Attests config entry ⟨path, ""⟩ ↔
      (∀ marker ∈ config.forbiddenMarker, marker.text ≠ "") ∧
        ∀ snippet ∈ entry.snippets, snippet = "" := by
  have hoccurs (text : String) :
      text.toList <:+: (Document.mk path "").content.toList ↔ text = "" := by
    simp
  constructor
  · rintro ⟨hunmarked, hcomplete⟩
    simp only [hoccurs] at hunmarked hcomplete
    exact ⟨hunmarked, hcomplete⟩
  · rintro ⟨hunmarked, hcomplete⟩
    constructor
    · simpa only [hoccurs] using hunmarked
    · simpa only [hoccurs] using hcomplete

/-- The documents of a family are listed, and none of them is asked for more than the
empty text. -/
def AsksNothing (config : EvidenceConfig) : Prop :=
  config.documents ≠ [] ∧ ∀ entry ∈ config.documents,
    entry.snippets ≠ [] ∧ ∀ snippet ∈ entry.snippets, snippet = ""

/-- When all documents of a family are empty, its gate comes to an end. If the family
belongs to an accepted configuration, the gate passes exactly if the family asks for
empty snippets only, and the empty text is not what it forbids. -/
theorem run_on_empty_contents {config : Config} (hvalid : config.validate = .ok ())
    {family : EvidenceConfig} (hfamily : family ∈ config.evidence) {source : Source}
    (hempty : ∀ entry ∈ family.documents,
      source.load entry.path = .ok (some ⟨entry.path, ""⟩)) :
    (∃ report, run source family = .ok report) ∧
      (Passes (run source family) ↔
        AsksNothing family ∧ ∀ marker ∈ family.forbiddenMarker, marker.text ≠ "") := by
  obtain ⟨hdocuments, hsnippets⟩ : Config.HasEvidence family :=
    ((Config.validateFamilies_ok_iff _ _).mp
      (Config.validateFamilies_of_validate hvalid)).2.2 family hfamily
  have hfinds : (∀ entry ∈ family.documents,
      ∃ document, Finds source family entry document) ↔
        ∀ entry ∈ family.documents, Attests family entry ⟨entry.path, ""⟩ := by
    constructor
    · intro h entry hentry
      obtain ⟨document, hloads, hattests⟩ := h entry hentry
      cases (hempty entry hentry).symm.trans hloads
      exact hattests
    · intro h entry hentry
      exact ⟨_, hempty entry hentry, h entry hentry⟩
  refine ⟨exists_report_of_loads fun entry hentry => ⟨_, hempty entry hentry⟩, ?_⟩
  rw [passes_iff_finds, hfinds]
  simp only [attests_empty_iff, AsksNothing]
  constructor
  · intro h
    obtain ⟨entry, hentry⟩ := List.exists_mem_of_ne_nil _ hdocuments
    refine ⟨⟨hdocuments, fun other hother => ⟨hsnippets other hother, ?_⟩⟩, ?_⟩
    · exact (h other hother).2
    · exact (h entry hentry).1
  · rintro ⟨⟨_, hblank⟩, hmarker⟩ entry hentry
    exact ⟨hmarker, (hblank entry hentry).2⟩

/-- A configuration with one family. -/
def drillConfig (snippets : List (List String)) : Config where
  freeze := { requiredPaths := ["drill.md"] }
  approvals := { ledger := "ledger.json" }
  schema :=
    { path := "schema.json", requiredFields := .ofList ["id"],
      eventTypes := .ofList ["drill.v1"] }
  evidence := [{ family := "drill", documents := snippets.map (⟨"drill.md", ·⟩) }]

/-- Every document is there and empty. -/
def emptySource : Source := ⟨fun _ => true, fun _ => .ok (some "")⟩

/-- One snippet that is a text is enough for the gate not to pass. -/
theorem empty_drill_fails :
    ∃ family ∈ (drillConfig [[""], ["", "closed"]]).evidence,
      (∃ report, run emptySource family = .ok report) ∧
        ¬Passes (run emptySource family) := by
  have hvalid : (drillConfig [[""], ["", "closed"]]).validate = .ok () := by decide
  have hempty (entry : EvidenceDocument) :
      emptySource.load entry.path = .ok (some ⟨entry.path, ""⟩) := rfl
  obtain ⟨hreport, hpasses⟩ := run_on_empty_contents hvalid
    (List.mem_singleton_self _) fun entry _ => hempty entry
  refine ⟨_, List.mem_singleton_self _, hreport, ?_⟩
  rw [hpasses]
  rintro ⟨⟨_, hblank⟩, _⟩
  exact absurd ((hblank ⟨"drill.md", ["", "closed"]⟩ (by simp)).2 "closed" (by simp))
    (by decide)

/-- A configuration that asks for the empty snippet is accepted, and its gate passes
on documents without any content. -/
theorem blank_snippets_pass :
    (drillConfig [[""]]).validate = .ok () ∧
      ∃ family ∈ (drillConfig [[""]]).evidence,
        (∀ entry ∈ family.documents,
          emptySource.load entry.path = .ok (some ⟨entry.path, ""⟩)) ∧
        Passes (run emptySource family) :=
  ⟨by decide, _, List.mem_singleton_self _, fun _ _ => rfl, _, rfl, rfl⟩

end Compliance.Evidence
