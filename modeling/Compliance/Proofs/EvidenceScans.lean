import Compliance.Proofs.SourceAgreement
import Mathlib.Data.List.Forall2
import Mathlib.Data.List.Infix

/-!
How far an evidence gate gets. The documents of a family are scanned in order, up to
the first entry that is in trouble: unreadable, absent, marked or incomplete, of
which the first that holds is reported. What stands behind that entry has no part in
the result.
-/

namespace Compliance.Evidence

/-- A document has all that its entry asks for, and nothing that is forbidden. -/
structure Attests (config : EvidenceConfig) (entry : EvidenceDocument)
    (document : Document) : Prop where
  unmarked : ∀ marker ∈ config.forbiddenMarker,
    ¬marker.text.toList <:+: document.content.toList
  complete : ∀ snippet ∈ entry.snippets,
    snippet.toList <:+: document.content.toList

/-- The document of an entry is there and attests. -/
structure Finds (source : Source) (config : EvidenceConfig) (entry : EvidenceDocument)
    (document : Document) : Prop where
  loads : source.load entry.path = .ok (some document)
  attests : Attests config entry document

/-- What can be the matter with an entry. -/
inductive Trouble where
  | unreadable (failure : GateError)
  | absent
  | marked (document : Document) (marker : ForbiddenMarker)
  | incomplete (document : Document) (snippet : String)

/-- What is the matter with an entry. A forbidden marker counts before missing
snippets, and of these the first one counts. -/
inductive Suffers (source : Source) (config : EvidenceConfig)
    (entry : EvidenceDocument) : Trouble → Prop
  | unreadable {failure : GateError} (hload : source.load entry.path = .error failure) :
    Suffers source config entry (.unreadable failure)
  | absent (hload : source.load entry.path = .ok none) :
    Suffers source config entry .absent
  | marked {document : Document} {marker : ForbiddenMarker}
    (hload : source.load entry.path = .ok (some document))
    (hmarker : config.forbiddenMarker = some marker)
    (hoccurs : marker.text.toList <:+: document.content.toList) :
    Suffers source config entry (.marked document marker)
  | incomplete {document : Document} {present more : List String} {snippet : String}
    (hload : source.load entry.path = .ok (some document))
    (hunmarked : ∀ marker ∈ config.forbiddenMarker,
      ¬marker.text.toList <:+: document.content.toList)
    (hsnippets : entry.snippets = present ++ snippet :: more)
    (hpresent : ∀ earlier ∈ present, earlier.toList <:+: document.content.toList)
    (hmissing : ¬snippet.toList <:+: document.content.toList) :
    Suffers source config entry (.incomplete document snippet)

/-- The report of a family on the documents that were looked at. -/
def reportOn (config : EvidenceConfig) (documents : List Document)
    (findings : List Finding) : Report where
  gate := "evidence." ++ config.family
  successLine := config.family ++ " controls evidence check passed"
  findings := findings
  documents := documents.map fun document => ⟨document.path, document.sha256⟩

/-- What the gate answers when an entry behind these documents is in trouble. The
document of the entry is recorded if there is one. -/
def Trouble.answer (config : EvidenceConfig) (entry : EvidenceDocument)
    (documents : List Document) : Trouble → Except GateError Report
  | unreadable failure => .error failure
  | absent =>
    .ok (reportOn config documents
      [⟨.missingArtifact entry.path,
        "missing required control artifact: " ++ entry.path⟩])
  | marked document marker =>
    .ok (reportOn config (documents ++ [document])
      [⟨.forbiddenMarkerPresent entry.path marker.text marker.label,
        marker.label ++ " detected in " ++ entry.path⟩])
  | incomplete document snippet =>
    .ok (reportOn config (documents ++ [document])
      [⟨.missingSnippet entry.path snippet,
        "missing required snippet '" ++ snippet ++ "' in " ++ entry.path⟩])

variable {source : Source} {config : EvidenceConfig} {entry : EvidenceDocument}
  {document : Document}

theorem filter_marker_eq_none
    (h : ∀ marker ∈ config.forbiddenMarker,
      ¬marker.text.toList <:+: document.content.toList) :
    (config.forbiddenMarker.filter fun marker => document.contains marker.text) =
      none := by
  rw [Option.filter_eq_none_iff]
  intro marker hmarker hcontains
  exact h marker hmarker (Document.contains_iff.mp hcontains)

theorem firstViolation_of_attests (h : Attests config entry document) :
    Requirement.firstViolation document (requirements config entry) = .ok none := by
  have hsnippets :
      (entry.snippets.find? fun snippet => !document.contains snippet) = none := by
    rw [List.find?_eq_none]
    intro snippet hsnippet
    simpa [Document.contains_iff] using h.complete snippet hsnippet
  rw [firstViolation_eq, filter_marker_eq_none h.unmarked, hsnippets]
  rfl

theorem firstViolation_of_marked {marker : ForbiddenMarker}
    (hmarker : config.forbiddenMarker = some marker)
    (hoccurs : marker.text.toList <:+: document.content.toList) :
    Requirement.firstViolation document (requirements config entry) =
      .ok (some (.forbiddenMarkerPresent document.path marker.text marker.label)) := by
  have hcontains := Document.contains_iff.mpr hoccurs
  rw [firstViolation_eq, hmarker]
  simp [Option.filter, hcontains]

theorem firstViolation_of_incomplete {present more : List String} {snippet : String}
    (hunmarked : ∀ marker ∈ config.forbiddenMarker,
      ¬marker.text.toList <:+: document.content.toList)
    (hsnippets : entry.snippets = present ++ snippet :: more)
    (hpresent : ∀ earlier ∈ present, earlier.toList <:+: document.content.toList)
    (hmissing : ¬snippet.toList <:+: document.content.toList) :
    Requirement.firstViolation document (requirements config entry) =
      .ok (some (.missingSnippet document.path snippet)) := by
  have hfirst : (entry.snippets.find? fun snippet => !document.contains snippet) =
      some snippet := by
    rw [List.find?_eq_some_iff_append]
    refine ⟨by simpa [← Document.contains_iff] using hmissing, present, more,
      hsnippets, ?_⟩
    intro earlier hearlier
    simpa [Document.contains_iff] using hpresent earlier hearlier
  rw [firstViolation_eq, filter_marker_eq_none hunmarked, hfirst]
  rfl

/-- A document that does not attest is marked, or there is a first snippet that it
lacks. -/
theorem attests_or_suffers (hload : source.load entry.path = .ok (some document)) :
    Attests config entry document ∨
      ∃ trouble, Suffers source config entry trouble := by
  by_cases hunmarked : ∀ marker ∈ config.forbiddenMarker,
      ¬marker.text.toList <:+: document.content.toList
  · cases hfirst : entry.snippets.find? fun snippet => !document.contains snippet with
    | none =>
      left
      refine ⟨hunmarked, ?_⟩
      intro snippet hsnippet
      rw [List.find?_eq_none] at hfirst
      simpa [Document.contains_iff] using hfirst snippet hsnippet
    | some snippet =>
      right
      rw [List.find?_eq_some_iff_append] at hfirst
      obtain ⟨hmissing, present, more, hsnippets, hpresent⟩ := hfirst
      refine ⟨_, .incomplete hload hunmarked hsnippets ?_ ?_⟩
      · intro earlier hearlier
        simpa [Document.contains_iff] using hpresent earlier hearlier
      · simpa [← Document.contains_iff] using hmissing
  · right
    push Not at hunmarked
    obtain ⟨marker, hmarker, hoccurs⟩ := hunmarked
    exact ⟨_, .marked hload hmarker hoccurs⟩

theorem finds_or_suffers (source : Source) (config : EvidenceConfig)
    (entry : EvidenceDocument) :
    (∃ document, Finds source config entry document) ∨
      ∃ trouble, Suffers source config entry trouble := by
  cases hload : source.load entry.path with
  | error failure => exact .inr ⟨_, .unreadable hload⟩
  | ok loaded =>
    cases loaded with
    | none => exact .inr ⟨_, .absent hload⟩
    | some document =>
      rcases attests_or_suffers hload with hattests | htrouble
      · exact .inl ⟨document, hload, hattests⟩
      · exact .inr htrouble

/-! ## The scan -/

theorem record_reportOn (documents : List Document) (document : Document) :
    (reportOn config documents []).record document =
      reportOn config (documents ++ [document]) [] := by
  simp [reportOn, Report.record]

theorem fail_reportOn (documents : List Document) (violation : Violation)
    (message : String) :
    (reportOn config documents []).fail violation message =
      reportOn config documents [⟨violation, message⟩] := rfl

theorem check_of_finds (h : Finds source config entry document)
    (seen : List Document) (rest : List EvidenceDocument) :
    check source config (reportOn config seen []) (entry :: rest) =
      check source config (reportOn config (seen ++ [document]) []) rest := by
  simp only [check, h.loads, firstViolation_of_attests h.attests, record_reportOn]

/-- Entries whose documents attest are passed by and leave a record. -/
theorem check_append {before : List EvidenceDocument} {documents : List Document}
    (h : List.Forall₂ (Finds source config) before documents)
    (seen : List Document) (rest : List EvidenceDocument) :
    check source config (reportOn config seen []) (before ++ rest) =
      check source config (reportOn config (seen ++ documents) []) rest := by
  induction h generalizing seen with
  | nil => simp
  | cons hentry _ ih =>
    rw [List.cons_append, check_of_finds hentry, ih, List.append_assoc]
    rfl

/-- The scan ends at an entry in trouble. -/
theorem check_of_suffers {trouble : Trouble} (h : Suffers source config entry trouble)
    (documents : List Document) (rest : List EvidenceDocument) :
    check source config (reportOn config documents []) (entry :: rest) =
      trouble.answer config entry documents := by
  cases h with
  | unreadable hload => simp only [check, hload, Trouble.answer]
  | absent hload =>
    simp only [check, hload, fail_reportOn]
    rfl
  | marked hload hmarker hoccurs =>
    simp only [check, hload, firstViolation_of_marked hmarker hoccurs, record_reportOn,
      fail_reportOn, Source.path_of_load hload]
    rfl
  | incomplete hload hunmarked hsnippets hpresent hmissing =>
    have hfirst := firstViolation_of_incomplete hunmarked hsnippets hpresent hmissing
    simp only [check, hload, hfirst, record_reportOn, fail_reportOn,
      Source.path_of_load hload]
    rfl

/-- The first entry of a family that is in trouble, and the documents that were found
for the entries in front of it. -/
structure StopsAt (source : Source) (config : EvidenceConfig)
    (before : List EvidenceDocument) (documents : List Document)
    (entry : EvidenceDocument) (trouble : Trouble) : Prop where
  position : ∃ behind, config.documents = before ++ entry :: behind
  finds : List.Forall₂ (Finds source config) before documents
  suffers : Suffers source config entry trouble

/-- A scan gets through, or it stops at some entry. -/
theorem finds_or_stopsAt (source : Source) (config : EvidenceConfig) :
    (∃ documents, List.Forall₂ (Finds source config) config.documents documents) ∨
      ∃ before documents entry trouble,
        StopsAt source config before documents entry trouble := by
  have hscan : ∀ entries : List EvidenceDocument,
      (∃ documents, List.Forall₂ (Finds source config) entries documents) ∨
        ∃ before documents entry trouble, (∃ behind, entries = before ++ entry :: behind) ∧
          List.Forall₂ (Finds source config) before documents ∧
          Suffers source config entry trouble := by
    intro entries
    induction entries with
    | nil => exact .inl ⟨[], .nil⟩
    | cons entry rest ih =>
      rcases finds_or_suffers source config entry with
        ⟨document, hfinds⟩ | ⟨trouble, hsuffers⟩
      · rcases ih with ⟨documents, hrest⟩ |
          ⟨before, documents, stopped, trouble, ⟨behind, rfl⟩, hbefore, hsuffers⟩
        · exact .inl ⟨document :: documents, .cons hfinds hrest⟩
        · exact .inr ⟨entry :: before, document :: documents, stopped, trouble,
            ⟨behind, rfl⟩, .cons hfinds hbefore, hsuffers⟩
      · exact .inr ⟨[], [], entry, trouble, ⟨rest, rfl⟩, .nil, hsuffers⟩
  rcases hscan config.documents with hall |
    ⟨before, documents, entry, trouble, hposition, hfinds, hsuffers⟩
  · exact .inl hall
  · exact .inr ⟨before, documents, entry, trouble, hposition, hfinds, hsuffers⟩

theorem run_of_finds {documents : List Document}
    (h : List.Forall₂ (Finds source config) config.documents documents) :
    run source config = .ok (reportOn config documents []) := by
  have hscan := check_append h [] []
  rw [List.append_nil] at hscan
  exact hscan

theorem run_of_stopsAt {before : List EvidenceDocument} {documents : List Document}
    {trouble : Trouble} (h : StopsAt source config before documents entry trouble) :
    run source config = trouble.answer config entry documents := by
  obtain ⟨behind, hposition⟩ := h.position
  have hscan := check_append h.finds [] (entry :: behind)
  rw [List.nil_append, check_of_suffers h.suffers documents behind, ← hposition] at hscan
  exact hscan

theorem Finds.of_load_eq {other : Source} (h : Finds source config entry document)
    (hload : other.load entry.path = source.load entry.path) :
    Finds other config entry document :=
  ⟨hload.trans h.loads, h.attests⟩

theorem Suffers.of_load_eq {other : Source} {trouble : Trouble}
    (h : Suffers source config entry trouble)
    (hsame : other.load entry.path = source.load entry.path) :
    Suffers other config entry trouble := by
  cases h with
  | unreadable hload => exact .unreadable (hsame.trans hload)
  | absent hload => exact .absent (hsame.trans hload)
  | marked hload hmarker hoccurs => exact .marked (hsame.trans hload) hmarker hoccurs
  | incomplete hload hunmarked hsnippets hpresent hmissing =>
    exact .incomplete (hsame.trans hload) hunmarked hsnippets hpresent hmissing

/-- A source that answers alike up to the entry in trouble stops there as well. -/
theorem StopsAt.of_read_eq {other : Source} {before : List EvidenceDocument}
    {documents : List Document} {trouble : Trouble}
    (h : StopsAt source config before documents entry trouble)
    (hread : ∀ scanned ∈ before ++ [entry],
      other.read scanned.path = source.read scanned.path) :
    StopsAt other config before documents entry trouble := by
  have hload : ∀ scanned ∈ before ++ [entry],
      other.load scanned.path = source.load scanned.path :=
    fun scanned hscanned => Source.load_congr (hread scanned hscanned)
  refine ⟨h.position, ?_, h.suffers.of_load_eq (hload entry (by simp))⟩
  have hfinds := List.forall₂_iff_zip.mp h.finds
  refine List.forall₂_iff_zip.mpr ⟨hfinds.1, fun {scanned document} hpair => ?_⟩
  have hscanned : scanned ∈ before := (List.of_mem_zip hpair).1
  exact (hfinds.2 hpair).of_load_eq (hload scanned (List.mem_append_left _ hscanned))

/-- An evidence gate from the source to the report. If a document is found for every
entry the gate passes and records all of them. Otherwise the first entry in trouble
decides: an error of loading it is handed on, and anything else is the one finding,
reported with the documents that were loaded up to there. Answers for paths that only
occur behind that entry do not matter. -/
theorem run_stops_at_first_trouble (source : Source) (config : EvidenceConfig) :
    (∀ documents, List.Forall₂ (Finds source config) config.documents documents →
        run source config = .ok (reportOn config documents [])) ∧
      (∀ before documents entry trouble,
        StopsAt source config before documents entry trouble →
          run source config = trouble.answer config entry documents ∧
            ∀ other : Source,
              (∀ scanned ∈ before ++ [entry],
                other.read scanned.path = source.read scanned.path) →
              run other config = run source config) ∧
      ((∃ documents, List.Forall₂ (Finds source config) config.documents documents) ∨
        ∃ before documents entry trouble,
          StopsAt source config before documents entry trouble) := by
  refine ⟨fun documents => run_of_finds, ?_, finds_or_stopsAt source config⟩
  intro before documents entry trouble hstops
  refine ⟨run_of_stopsAt hstops, ?_⟩
  intro other hread
  rw [run_of_stopsAt hstops, run_of_stopsAt (hstops.of_read_eq hread)]

/-- A drill with a plan in front of it and notes behind it. -/
def drillFamily : EvidenceConfig where
  family := "drill"
  forbiddenMarker := some { text := "FAIL" }
  documents := [⟨"plan.md", ["signed"]⟩, ⟨"drill.md", ["reviewed", "closed"]⟩,
    ⟨"notes.md", ["filed"]⟩]

/-- The drill failed and was not closed; what the notes are is left open. -/
def drillSource (notes : Except GateError (Option String)) : Source where
  has _ := true
  read path :=
    if path = "plan.md" then .ok (some "signed")
    else if path = "drill.md" then .ok (some "reviewed: FAIL")
    else notes

theorem run_stops_at_failed_drill :
    let plan : Document := ⟨"plan.md", "signed"⟩
    let drill : Document := ⟨"drill.md", "reviewed: FAIL"⟩
    StopsAt (drillSource (.ok none)) drillFamily [⟨"plan.md", ["signed"]⟩] [plan]
        ⟨"drill.md", ["reviewed", "closed"]⟩ (.marked drill { text := "FAIL" }) ∧
      run (drillSource (.ok none)) drillFamily =
        .ok (reportOn drillFamily [plan, drill]
          [⟨.forbiddenMarkerPresent "drill.md" "FAIL" "explicit FAIL status",
            "explicit FAIL status detected in drill.md"⟩]) ∧
      run (drillSource (.error (.io "notes.md" .isDirectory))) drillFamily =
        run (drillSource (.ok none)) drillFamily := by
  intro plan drill
  have hstops : StopsAt (drillSource (.ok none)) drillFamily [⟨"plan.md", ["signed"]⟩]
      [plan] ⟨"drill.md", ["reviewed", "closed"]⟩ (.marked drill { text := "FAIL" }) := by
    refine ⟨⟨_, rfl⟩, .cons ⟨rfl, ?_, ?_⟩ .nil, .marked rfl rfl ?_⟩
    · simp only [drillFamily, Option.mem_def, Option.some.injEq, forall_eq']
      decide
    · simp only [List.forall_mem_singleton]
      decide
    · decide
  obtain ⟨hrun, hother⟩ :=
    (run_stops_at_first_trouble (drillSource (.ok none)) drillFamily).2.1 _ _ _ _ hstops
  refine ⟨hstops, hrun, hother _ ?_⟩
  simp [drillSource]

end Compliance.Evidence
