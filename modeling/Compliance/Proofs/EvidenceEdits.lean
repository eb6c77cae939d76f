import Compliance.Proofs.EmptyEvidence
import Compliance.Proofs.MemoryContents

/-!
Edits to evidence that passes. A new content at one path can only matter at the entries
for that path, of which there may be several. If it holds the forbidden marker, the
first of these entries is where the gate stops, whatever has become of the snippets. If
it still holds all that was there before, the snippets are found as they were, and the
marker alone decides.
-/

namespace Compliance.Evidence

variable {config : EvidenceConfig} {memory : MemorySource} {entry : EvidenceDocument}
  {document : Document} {before : List EvidenceDocument} {path : String}

/-- The first entry of a family for a path, and the entries in front of it. -/
structure FirstFor (config : EvidenceConfig) (path : String)
    (before : List EvidenceDocument) (entry : EvidenceDocument) : Prop where
  position : ∃ behind, config.documents = before ++ entry :: behind
  here : entry.path = path
  earlier : ∀ other ∈ before, other.path ≠ path

/-- The documents that a source holds for entries, one by one. -/
def Loads (source : Source) (entries : List EvidenceDocument)
    (documents : List Document) : Prop :=
  List.Forall₂ (fun entry document => source.load entry.path = .ok (some document))
    entries documents

theorem exists_firstFor (h : ∃ entry ∈ config.documents, entry.path = path) :
    ∃ before entry, FirstFor config path before entry := by
  have hfound : (config.documents.find? (·.path = path)).isSome = true := by
    simpa using h
  obtain ⟨entry, hentry⟩ := Option.isSome_iff_exists.mp hfound
  obtain ⟨hhere, before, behind, hposition, hearlier⟩ :=
    List.find?_eq_some_iff_append.mp hentry
  exact ⟨before, entry, ⟨behind, hposition⟩, by simpa using hhere,
    by simpa using hearlier⟩

/-- An edit at another path does not matter to an entry. -/
theorem Finds.insert_of_ne (h : Finds memory.source config entry document)
    (hne : entry.path ≠ path) (text : String) :
    Finds (memory.insert path text).source config entry document :=
  h.of_load_eq (Source.load_congr (MemorySource.read_insert_of_ne hne))

theorem StopsAt.loads {source : Source} {documents : List Document}
    {marker : ForbiddenMarker}
    (h : StopsAt source config before documents entry (.marked document marker)) :
    Loads source (before ++ [entry]) (documents ++ [document]) := by
  have hbefore : Loads source before documents :=
    h.finds.imp fun _ _ hfinds => hfinds.loads
  cases h.suffers with
  | marked hload => exact List.rel_append hbefore (.cons hload .nil)

/-- Where the new content holds the marker, the gate stops at the first entry for the
edited path. -/
theorem exists_stopsAt_insert {text : String} {marker : ForbiddenMarker}
    (hpasses : Passes (run memory.source config))
    (hfirst : FirstFor config path before entry)
    (hmarker : config.forbiddenMarker = some marker)
    (hoccurs : marker.text.toList <:+: text.toList) :
    ∃ documents, StopsAt (memory.insert path text).source config before documents entry
      (.marked ⟨path, text⟩ marker) := by
  have hfinds := passes_iff_finds.mp hpasses
  obtain ⟨behind, hposition⟩ := hfirst.position
  have hbefore : ∀ other ∈ before, ∃ document,
      Finds (memory.insert path text).source config other document := by
    intro other hother
    obtain ⟨document, hdocument⟩ := hfinds other (by simp [hposition, hother])
    exact ⟨document, hdocument.insert_of_ne (hfirst.earlier other hother) text⟩
  obtain ⟨documents, hdocuments⟩ := exists_forall₂_finds_iff.mpr hbefore
  have hload : (memory.insert path text).source.load entry.path =
      .ok (some ⟨path, text⟩) := by
    rw [hfirst.here]
    exact MemorySource.load_insert_self
  exact ⟨documents, ⟨behind, hposition⟩, hdocuments, .marked hload hmarker hoccurs⟩

/-- An edit that loses no snippet keeps the gate passing unless it brings the marker
in. -/
theorem passes_insert_iff {text : String} (hpasses : Passes (run memory.source config))
    (hpath : ∃ entry ∈ config.documents, entry.path = path)
    (hsnippets : ∀ entry ∈ config.documents, entry.path = path →
      ∀ snippet ∈ entry.snippets, snippet.toList <:+: text.toList) :
    Passes (run (memory.insert path text).source config) ↔
      ∀ marker ∈ config.forbiddenMarker, ¬marker.text.toList <:+: text.toList := by
  rw [passes_iff_finds]
  constructor
  · intro hfinds
    obtain ⟨entry, hentry, rfl⟩ := hpath
    obtain ⟨document, hload, hattests⟩ := hfinds entry hentry
    cases MemorySource.load_insert_self.symm.trans hload
    exact hattests.unmarked
  · intro hunmarked entry hentry
    by_cases hhere : entry.path = path
    · subst hhere
      exact ⟨_, MemorySource.load_insert_self, hunmarked, hsnippets entry hentry rfl⟩
    · obtain ⟨document, hdocument⟩ := passes_iff_finds.mp hpasses entry hentry
      exact ⟨document, hdocument.insert_of_ne hhere text⟩

/-- What a passing family asks of a path stands in the content stored there. -/
theorem snippets_of_passes {content : String}
    (hpasses : Passes (run memory.source config))
    (hstored : memory.content? path = some content) (hentry : entry ∈ config.documents)
    (hhere : entry.path = path) :
    ∀ snippet ∈ entry.snippets, snippet.toList <:+: content.toList := by
  obtain ⟨document, hload, hattests⟩ := passes_iff_finds.mp hpasses entry hentry
  rw [hhere, MemorySource.load_source, hstored] at hload
  cases hload
  exact hattests.complete

/-- Two kinds of edits to the content of a document of a family that passes. Wherever
the forbidden marker is put into it, the gate stops with the marker as its one finding,
and has recorded the documents up to the first entry for the path. After texts are put
around it, the gate passes unless what stands there now holds the marker. -/
theorem run_after_edit {content : String} (hpasses : Passes (run memory.source config))
    (hpath : ∃ entry ∈ config.documents, entry.path = path)
    (hstored : memory.content? path = some content) :
    (∀ marker, config.forbiddenMarker = some marker →
      ∀ front back, content = front ++ back →
        let edited := (memory.insert path (front ++ marker.text ++ back)).source
        ∃ before entry documents, FirstFor config path before entry ∧
          Loads edited (before ++ [entry]) documents ∧
          run edited config = .ok (reportOn config documents
            [⟨.forbiddenMarkerPresent path marker.text marker.label,
              marker.label ++ " detected in " ++ path⟩])) ∧
      ∀ front back,
        let text := front ++ content ++ back
        Passes (run (memory.insert path text).source config) ↔
          ∀ marker ∈ config.forbiddenMarker, ¬marker.text.toList <:+: text.toList := by
  constructor
  · intro marker hmarker front back _ edited
    obtain ⟨before, entry, hfirst⟩ := exists_firstFor hpath
    have hoccurs : marker.text.toList <:+: (front ++ marker.text ++ back).toList := by
      simp only [String.toList_append]
      exact List.infix_append _ _ _
    obtain ⟨documents, hstops⟩ := exists_stopsAt_insert hpasses hfirst hmarker hoccurs
    refine ⟨before, entry, _, hfirst, hstops.loads, ?_⟩
    rw [run_of_stopsAt hstops, Trouble.answer, hfirst.here]
  · intro front back text
    apply passes_insert_iff hpasses hpath
    intro entry hentry hhere snippet hsnippet
    have hcontent := snippets_of_passes hpasses hstored hentry hhere snippet hsnippet
    simp only [text, String.toList_append]
    exact hcontent.trans (List.infix_append _ _ _)

/-- A drill that is listed for what was reviewed, and again for what was closed. -/
def rehearsedFamily : EvidenceConfig where
  family := "drill"
  forbiddenMarker := some { text := "FAIL" }
  documents := [⟨"plan.md", ["signed"]⟩, ⟨"drill.md", ["reviewed"]⟩,
    ⟨"drill.md", ["closed"]⟩]

/-- The drill ends in the first half of the marker. -/
def rehearsedCorpus : MemorySource :=
  .ofList [("plan.md", "signed"), ("drill.md", "reviewed, closed: FA")]

/-- A marker in the midst of a snippet is all that is found. A text behind the drill
brings the marker in only if it completes it. -/
theorem run_after_edit_of_drill :
    Passes (run rehearsedCorpus.source rehearsedFamily) ∧
      (∃ documents,
        run (rehearsedCorpus.insert "drill.md" "reviFAILewed, closed: FA").source
            rehearsedFamily =
          .ok (reportOn rehearsedFamily documents
            [⟨.forbiddenMarkerPresent "drill.md" "FAIL" "explicit FAIL status",
              "explicit FAIL status detected in drill.md"⟩])) ∧
      ¬Passes (run (rehearsedCorpus.insert "drill.md" "reviewed, closed: FAIL").source
        rehearsedFamily) ∧
      Passes (run (rehearsedCorpus.insert "drill.md" "reviewed, closed: FAST").source
        rehearsedFamily) := by
  have hpasses : Passes (run rehearsedCorpus.source rehearsedFamily) := ⟨_, rfl, rfl⟩
  obtain ⟨hmarked, haround⟩ := run_after_edit hpasses
    ⟨⟨"drill.md", ["reviewed"]⟩, by simp [rehearsedFamily], rfl⟩
    (show rehearsedCorpus.content? "drill.md" = some "reviewed, closed: FA" by decide)
  have hcompleted := haround "" "IL"
  have hother := haround "" "ST"
  simp only [rehearsedFamily, Option.mem_def, Option.some.injEq, forall_eq']
    at hcompleted hother
  refine ⟨hpasses, ?_, ?_, ?_⟩
  · obtain ⟨_, _, documents, _, _, hrun⟩ := hmarked _ rfl "revi" "ewed, closed: FA" rfl
    exact ⟨documents, hrun⟩
  · exact mt hcompleted.mp (by decide)
  · exact hother.mpr (by decide)

end Compliance.Evidence
