import Compliance.Proofs.LedgerFindings
import Compliance.Proofs.SchemaFindings

/-!
What the gates do not look at in a structured document. Of a ledger they see the list of
decisions, and of each decision five keys; of a schema they see the names in two arrays.
Two documents that agree on these get the same report, whatever else they hold, except
that each is recorded with a digest of its own.
-/

namespace Compliance

/-- Two gates report the same: entries, header and text are equal, and of the documents
on record only the digests may differ. -/
def ReportAlike (first second : Except GateError Report) : Prop :=
  ∃ report other, first = .ok report ∧ second = .ok other ∧
    other.findings = report.findings ∧ other.header = report.header ∧
    other.renderText = report.renderText ∧
    other = { report with documents := other.documents } ∧
    other.documents.map DocumentDigest.path = report.documents.map DocumentDigest.path

theorem ReportAlike.of_documents {first second : Except GateError Report}
    {report : Report} {documents : List DocumentDigest} (hfirst : first = .ok report)
    (hsecond : second = .ok { report with documents })
    (hpaths : documents.map DocumentDigest.path =
      report.documents.map DocumentDigest.path) : ReportAlike first second :=
  ⟨report, _, hfirst, hsecond, rfl, rfl, rfl, rfl, hpaths⟩

/-- An object with these members is read at a path. -/
def Source.ReadsObject (source : Source) (path : String)
    (members : List (String × Json)) : Prop :=
  ∃ text, source.read path = .ok (some text) ∧ Json.read text = .ok (.object members)

theorem Source.ReadsObject.load {source : Source} {path : String}
    {members : List (String × Json)} (h : source.ReadsObject path members) :
    ∃ document, source.load path = .ok (some document) ∧ document.path = path ∧
      Json.read document.content = .ok (.object members) := by
  obtain ⟨text, hread, hobject⟩ := h
  refine ⟨⟨path, text⟩, ?_, rfl, hobject⟩
  rw [Source.load, hread]
  rfl

namespace Approvals

/-- The keys of a decision that are looked at. -/
def inspectedKeys : List String :=
  ["id", "financial_impact", "control_impact", "finance_approved", "controls_approved"]

/-- Two items are objects that hold the same under the keys that are looked at. -/
structure SameDecision (item other : Json) : Prop where
  isObject : item.isObject = true
  other_isObject : other.isObject = true
  agree : ∀ key ∈ inspectedKeys, other.member? key = item.member? key

/-- Two ledgers have no list of decisions, or lists of the same decisions. -/
inductive SameDecisions (members others : List (String × Json)) : Prop
  | absent (hmembers : members.lookup "decisions" = none)
    (hothers : others.lookup "decisions" = none)
  | listed {items given : List Json}
    (hmembers : members.lookup "decisions" = some (.array items))
    (hothers : others.lookup "decisions" = some (.array given))
    (hsame : List.Forall₂ SameDecision items given)

variable {item other : Json} {members others : List (String × Json)}

theorem SameDecision.ofJson?_eq (h : SameDecision item other) :
    Decision.ofJson? other = Decision.ofJson? item := by
  have hagree := h.agree
  simp only [inspectedKeys, List.forall_mem_cons] at hagree
  obtain ⟨hid, hfinancial, hcontrol, hfinance, hcontrols, _⟩ := hagree
  simp only [Decision.ofJson?, h.isObject, h.other_isObject, hid, hfinancial, hcontrol,
    hfinance, hcontrols]

theorem decisionsFrom_congr {items given : List Json}
    (h : List.Forall₂ SameDecision items given) (path : String) (index : Nat) :
    decisionsFrom path index given = decisionsFrom path index items := by
  induction h generalizing index with
  | nil => rfl
  | cons hitem _ ih => simp only [decisionsFrom, hitem.ofJson?_eq, ih]

/-- The same decisions are read from both ledgers, and they can be read. -/
theorem SameDecisions.exists_decisions (h : SameDecisions members others)
    (path : String) :
    ∃ made, decisions path (.object members) = .ok made ∧
      decisions path (.object others) = .ok made := by
  cases h with
  | absent hmembers hothers =>
    exact ⟨[], by simp [decisions, Json.member?, hmembers],
      by simp [decisions, Json.member?, hothers]⟩
  | @listed items given hmembers hothers hsame =>
    have hobjects : ∀ item ∈ items, item.isObject = true :=
      ((List.forall₂_and_left _ _).mp (hsame.imp fun _ _ h => ⟨h.isObject, h⟩)).1
    obtain ⟨made, hmade, _⟩ := decisionsFrom_of_objects path 0 hobjects
    refine ⟨made, ?_, ?_⟩
    · simpa [decisions, Json.member?, hmembers] using hmade
    · simpa [decisions, Json.member?, hothers, decisionsFrom_congr hsame] using hmade

/-- The decisions make a report, but for the digest of the ledger. -/
theorem report_eq (document given : Document) (made : List Decision) :
    report given made =
      { report document made with documents := [⟨given.path, given.sha256⟩] } := by
  simp only [report, Report.failAll_eq]
  rfl

theorem run_of_reads {source : Source} {config : ApprovalsConfig} {document : Document}
    {made : List Decision} (hending : structuredEnding <:+ config.ledger.toList)
    (hload : source.load config.ledger = .ok (some document))
    (hread : Json.read document.content = .ok (.object members))
    (hmade : decisions config.ledger (.object members) = .ok made) :
    run source config = .ok (report document made) := by
  have hpath : document.path = config.ledger := Source.path_of_load hload
  have hobject := Document.object_of_holdsObject ⟨hpath ▸ hending, hread⟩
  simp only [run, hload, decisionsOf, hobject, hpath, hmade]
  rfl

theorem run_alike {first second : Source} {config : ApprovalsConfig}
    (hending : structuredEnding <:+ config.ledger.toList)
    (hfirst : first.ReadsObject config.ledger members)
    (hsecond : second.ReadsObject config.ledger others)
    (hsame : SameDecisions members others) :
    ReportAlike (run first config) (run second config) := by
  obtain ⟨document, hload, hpath, hread⟩ := hfirst.load
  obtain ⟨given, hgiven, hsamePath, hother⟩ := hsecond.load
  obtain ⟨made, hmembers, hothers⟩ := hsame.exists_decisions config.ledger
  have hrun := run_of_reads hending hgiven hother hothers
  rw [report_eq document given] at hrun
  apply ReportAlike.of_documents (run_of_reads hending hload hread hmembers) hrun
  simp [report, Report.failAll_eq, hpath, hsamePath]

end Approvals

namespace Schema

variable {members others : List (String × Json)}

theorem run_alike {first second : Source} {config : SchemaConfig}
    (hending : structuredEnding <:+ config.path.toList)
    (hfirst : first.ReadsObject config.path members)
    (hsecond : second.ReadsObject config.path others)
    (hfields : (Json.object others).stringSet "/required" =
      (Json.object members).stringSet "/required")
    (htypes : (Json.object others).stringSet config.enumPointer =
      (Json.object members).stringSet config.enumPointer) :
    ReportAlike (run first config) (run second config) := by
  obtain ⟨document, hload, hpath, hread⟩ := hfirst.load
  obtain ⟨given, hgiven, hsamePath, hother⟩ := hsecond.load
  have hrun := run_of_holdsObject hgiven ⟨hsamePath ▸ hending, hother⟩
  rw [firstDefect_of_stringSet_eq hfields htypes, report_eq document given] at hrun
  apply ReportAlike.of_documents
    (run_of_holdsObject hload ⟨hpath ▸ hending, hread⟩) hrun
  simp [report_documents, hpath, hsamePath]

/-- A schema that is to be read as free text is not looked into at all. -/
theorem run_of_not_structured {source : Source} {config : SchemaConfig}
    (hending : ¬structuredEnding <:+ config.path.toList)
    (h : source.ReadsObject config.path members) :
    run source config = .error (.malformed config.path .notStructured) := by
  obtain ⟨document, hload, hpath, _⟩ := h.load
  apply (run_malformed_iff hload .notStructured).mpr
  rwa [← hpath] at hending

end Schema

/-- Two ledgers that agree on what is looked at in their decisions get the same report,
and so do two schemas that declare the same names. -/
theorem uninspected_keys_change_no_report :
    (∀ (config : ApprovalsConfig) (first second : Source)
      (members others : List (String × Json)),
      structuredEnding <:+ config.ledger.toList →
      first.ReadsObject config.ledger members →
      second.ReadsObject config.ledger others →
      Approvals.SameDecisions members others →
      ReportAlike (Approvals.run first config) (Approvals.run second config)) ∧
    ∀ (config : SchemaConfig) (first second : Source)
      (members others : List (String × Json)),
      first.ReadsObject config.path members →
      second.ReadsObject config.path others →
      (Json.object others).stringSet "/required" =
        (Json.object members).stringSet "/required" →
      (Json.object others).stringSet config.enumPointer =
        (Json.object members).stringSet config.enumPointer →
      if structuredEnding <:+ config.path.toList
      then ReportAlike (Schema.run first config) (Schema.run second config)
      else Schema.run first config = .error (.malformed config.path .notStructured) ∧
        Schema.run second config = .error (.malformed config.path .notStructured) := by
  constructor
  · intro config first second members others hending hfirst hsecond hsame
    exact Approvals.run_alike hending hfirst hsecond hsame
  · intro config first second members others hfirst hsecond hfields htypes
    split
    · next hending => exact Schema.run_alike hending hfirst hsecond hfields htypes
    · next hending =>
      exact ⟨Schema.run_of_not_structured hending hfirst,
        Schema.run_of_not_structured hending hsecond⟩

/-- A source with one text at every path. -/
def textSource (text : String) : Source := ⟨fun _ => true, fun _ => .ok (some text)⟩

/-- A ledger in which an id is corrected and an owner named. -/
def ownedLedger : String :=
  "\x7b\"decisions\": [\x7b\"id\": \"D-0\", \"financial_impact\": true, " ++
    "\"id\": \"D-1\"\x7d], \"owner\": \"ops\"\x7d"

/-- The same decision with a note. -/
def notedLedger : String :=
  "\x7b\"decisions\": [\x7b\"note\": [1], \"id\": \"D-1\", " ++
    "\"financial_impact\": true\x7d]\x7d"

def orderSchema : String :=
  "\x7b\"required\": [\"id\", \"state\"], \"types\": [\"order.v2\"]\x7d"

/-- The same names in another order, among other things. -/
def titledSchema : String :=
  "\x7b\"title\": \"orders\", \"required\": [\"state\", 7, \"id\"], " ++
    "\"types\": [\"order.v2\", \"order.v2\"]\x7d"

/-- An owner, a note and a repeated key make no difference to the finding on a ledger,
nor do a title, a number and a repeated name to that on a schema. -/
theorem uninspected_keys_of_orders :
    let config : ApprovalsConfig := { ledger := "ledger.json" }
    ReportAlike (Approvals.run (textSource ownedLedger) config)
        (Approvals.run (textSource notedLedger) config) ∧
      (∃ report, Approvals.run (textSource notedLedger) config = .ok report ∧
        report.messages = ["D-1: finance approval missing"]) ∧
      ReportAlike (Schema.run (textSource orderSchema) Schema.orderConfig)
        (Schema.run (textSource titledSchema) Schema.orderConfig) := by
  intro config
  have howned : (textSource ownedLedger).ReadsObject "ledger.json"
      [("decisions", .array
        [.object [("financial_impact", .boolean true), ("id", .string "D-1")]]),
        ("owner", .string "ops")] := ⟨_, rfl, rfl⟩
  have hnoted : (textSource notedLedger).ReadsObject "ledger.json"
      [("decisions", .array
        [.object [("financial_impact", .boolean true), ("id", .string "D-1"),
          ("note", .array [.number (.integer 1)])]])] := ⟨_, rfl, rfl⟩
  have hplain : (textSource orderSchema).ReadsObject "orders.json"
      [("required", .array [.string "id", .string "state"]),
        ("types", .array [.string "order.v2"])] := ⟨_, rfl, rfl⟩
  have htitled : (textSource titledSchema).ReadsObject "orders.json"
      [("required", .array [.string "state", .number (.integer 7), .string "id"]),
        ("title", .string "orders"),
        ("types", .array [.string "order.v2", .string "order.v2"])] := ⟨_, rfl, rfl⟩
  obtain ⟨hledgers, hschemas⟩ := uninspected_keys_change_no_report
  refine ⟨?_, ?_, ?_⟩
  · apply hledgers config _ _ _ _ (by decide) howned hnoted
    refine .listed rfl rfl (.cons ⟨rfl, rfl, ?_⟩ .nil)
    simp only [Approvals.inspectedKeys, List.forall_mem_cons]
    exact ⟨rfl, rfl, rfl, rfl, rfl, by simp⟩
  · obtain ⟨document, hload, _, hread⟩ := hnoted.load
    exact ⟨_, Approvals.run_of_reads (by decide) hload hread rfl, rfl⟩
  · exact hschemas Schema.orderConfig _ _ _ _ hplain htitled (by decide) (by decide)

end Compliance
