import Compliance.Gate.Approvals
import Compliance.Proofs.StructuredDocuments

/-!
The ledger of decisions and what is reported on it. A ledger either holds a list
of items that are all objects, or something in it is malformed and nothing at
all is reported. Of the items that a ledger holds, each lacks the approvals
whose impact is truthy while the approval itself is not, finance before
controls.
-/

namespace Compliance.Approvals

/-- Values that count as no. -/
inductive Falsy : Option Json → Prop
  | absent : Falsy none
  | null : Falsy (some .null)
  | no : Falsy (some (.boolean false))
  | zero : Falsy (some (.number (.integer 0)))
  | zeroDouble (negative : Bool) (scale : Nat) :
    Falsy (some (.number (.double ⟨negative, 0, scale⟩)))
  | emptyText : Falsy (some (.string ""))
  | emptyArray : Falsy (some (.array []))
  | emptyObject : Falsy (some (.object []))

theorem truthy_eq_false_iff (value : Option Json) :
    truthy value = false ↔ Falsy value := by
  constructor
  · intro h
    cases value with
    | none => exact .absent
    | some value =>
      have hfalse : value.truthy = false := h
      cases value with
      | null => exact .null
      | boolean value =>
        cases hfalse
        exact .no
      | number value =>
        cases value with
        | integer value =>
          have hzero : value = 0 := by
            simpa [Json.truthy, JsonNumber.isZero] using hfalse
          exact hzero ▸ .zero
        | double value =>
          have hzero : value.mantissa = 0 := by
            simpa [Json.truthy, JsonNumber.isZero,
              Numeral.Binary64.isZero] using hfalse
          obtain ⟨negative, mantissa, scale⟩ := value
          cases hzero
          exact .zeroDouble negative scale
      | string text =>
        have hempty : text = "" := by simpa [Json.truthy] using hfalse
        exact hempty ▸ .emptyText
      | array items =>
        have hempty : items = [] := by simpa [Json.truthy] using hfalse
        exact hempty ▸ .emptyArray
      | object members =>
        have hempty : members = [] := by simpa [Json.truthy] using hfalse
        exact hempty ▸ .emptyObject
  · intro h
    cases h <;> rfl

instance (value : Option Json) : Decidable (Falsy value) :=
  decidable_of_iff _ (truthy_eq_false_iff value)

/-- Where an item says that it has an impact which needs this approval. -/
def impactKey : Approval → String
  | .finance => "financial_impact"
  | .controls => "control_impact"

/-- Where an item says that this approval was given. -/
def approvedKey : Approval → String
  | .finance => "finance_approved"
  | .controls => "controls_approved"

def Lacks (item : Json) (approval : Approval) : Prop :=
  ¬Falsy (item.member? (impactKey approval)) ∧
    Falsy (item.member? (approvedKey approval))

instance (item : Json) (approval : Approval) : Decidable (Lacks item approval) :=
  inferInstanceAs (Decidable (_ ∧ _))

/-- The violations of one item, finance first. -/
def lackingViolations (item : Json) : List Violation :=
  ([Approval.finance, .controls].filter (Lacks item)).map
    (.approvalMissing (label (item.member? "id")))

example : lackingViolations (.object
    [("control_impact", .number (.integer 1)), ("controls_approved", .string ""),
      ("financial_impact", .array [.null]), ("id", .null)]) =
    [.approvalMissing "unknown" .finance,
      .approvalMissing "unknown" .controls] := by
  decide

theorem violations_of_ofJson? {item : Json} {decision : Decision}
    (h : Decision.ofJson? item = some decision) :
    decision.violations = lackingViolations item := by
  have hlacks (approval : Approval) : Lacks item approval ↔
      (truthy (item.member? (impactKey approval)) &&
        !truthy (item.member? (approvedKey approval))) = true := by
    simp [Lacks, ← truthy_eq_false_iff]
  have hfinance := hlacks .finance
  have hcontrols := hlacks .controls
  unfold Decision.ofJson? at h
  split at h
  · cases h
    simp only [Decision.violations]
    by_cases hf : Lacks item .finance <;> by_cases hc : Lacks item .controls
    all_goals
      simp only [impactKey, approvedKey, hf, hc, true_iff,
        false_iff] at hfinance hcontrols
      simp [lackingViolations, List.filter, hf, hc, hfinance, hcontrols]
  · cases h

/-- The position of the first item that is no object. -/
def FirstNonObject (items : List Json) (index : Nat) : Prop :=
  (∃ item, items[index]? = some item ∧ item.isObject = false) ∧
    ∀ earlier < index, ∀ item, items[earlier]? = some item → item.isObject = true

theorem firstNonObject_succ {head : Json} {rest : List Json} {index : Nat} :
    FirstNonObject (head :: rest) (index + 1) ↔
      head.isObject = true ∧ FirstNonObject rest index := by
  constructor
  · rintro ⟨hitem, hearlier⟩
    refine ⟨hearlier 0 (by omega) head rfl, hitem, ?_⟩
    intro earlier hlt item hfound
    exact hearlier (earlier + 1) (by omega) item hfound
  · rintro ⟨hhead, hitem, hearlier⟩
    refine ⟨hitem, ?_⟩
    intro earlier hlt item hfound
    cases earlier with
    | zero =>
      cases hfound
      exact hhead
    | succ earlier => exact hearlier earlier (by omega) item hfound

theorem exists_firstNonObject {items : List Json}
    (h : ∃ item ∈ items, item.isObject = false) :
    ∃ index, FirstNonObject items index := by
  induction items with
  | nil =>
    obtain ⟨item, hmember, _⟩ := h
    cases hmember
  | cons head rest ih =>
    cases hhead : head.isObject with
    | false => exact ⟨0, ⟨head, rfl, hhead⟩, by simp⟩
    | true =>
      obtain ⟨item, hmember, hitem⟩ := h
      rcases List.mem_cons.mp hmember with rfl | hrest
      · rw [hhead] at hitem
        cases hitem
      · obtain ⟨index, hindex⟩ := ih ⟨item, hrest, hitem⟩
        exact ⟨index + 1, firstNonObject_succ.mpr ⟨hhead, hindex⟩⟩

theorem ofJson?_of_isObject {item : Json} (h : item.isObject = true) :
    ∃ decision, Decision.ofJson? item = some decision := by
  simp [Decision.ofJson?, h]

/-- Items that are all objects become decisions one by one, and lack what the
items lack. -/
theorem decisionsFrom_of_objects {items : List Json} (path : String) (index : Nat)
    (h : ∀ item ∈ items, item.isObject = true) :
    ∃ decisions, decisionsFrom path index items = .ok decisions ∧
      decisions.flatMap Decision.violations = items.flatMap lackingViolations := by
  induction items generalizing index with
  | nil => exact ⟨[], rfl, rfl⟩
  | cons head rest ih =>
    obtain ⟨decision, hdecision⟩ := ofJson?_of_isObject (h head (by simp))
    obtain ⟨decisions, hrest, hviolations⟩ :=
      ih (index + 1) fun item hm => h item (List.mem_cons_of_mem head hm)
    refine ⟨decision :: decisions, ?_, ?_⟩
    · simp [decisionsFrom, hdecision, hrest, Except.map]
    · rw [List.flatMap_cons, List.flatMap_cons, hviolations,
        violations_of_ofJson? hdecision]

/-- The first item that is no object is blamed, whatever comes behind it. -/
theorem decisionsFrom_of_firstNonObject {items : List Json} {position : Nat}
    (path : String)
    (index : Nat) (h : FirstNonObject items position) :
    decisionsFrom path index items =
      .error (.malformed path (.decisionNotObject (index + position))) := by
  induction items generalizing index position with
  | nil =>
    obtain ⟨⟨item, hitem, _⟩, _⟩ := h
    cases hitem
  | cons head rest ih =>
    cases position with
    | zero =>
      obtain ⟨⟨item, hitem, hnone⟩, _⟩ := h
      cases hitem
      simp [decisionsFrom, Decision.ofJson?, hnone]
    | succ position =>
      obtain ⟨hhead, hrest⟩ := firstNonObject_succ.mp h
      obtain ⟨decision, hdecision⟩ := ofJson?_of_isObject hhead
      have hlater := ih (index + 1) hrest
      have hindex : index + 1 + position = index + (position + 1) := by omega
      rw [hindex] at hlater
      simp [decisionsFrom, hdecision, hlater, Except.map]

/-- The items of the list of decisions in a ledger; a ledger without such a list
has none. -/
def HoldsDecisions (document : Document) (items : List Json) : Prop :=
  ∃ members, document.HoldsObject members ∧
    (members.lookup "decisions" = some (.array items) ∨
      members.lookup "decisions" = none ∧ items = [])

/-- What makes a ledger malformed: there is no object in it, its decisions are
no list, or one of them is no object. -/
def Malformed (document : Document) : Prop :=
  document.LacksObject ∨
    (∃ members value, document.HoldsObject members ∧
      members.lookup "decisions" = some value ∧
      ∀ items, value ≠ .array items) ∨
    ∃ items, HoldsDecisions document items ∧ ∃ item ∈ items, item.isObject = false

/-- The reason that is given for a malformed ledger. What is wrong with the whole
comes before what is wrong with an item, and of the items the first one that is
no object is named. -/
def Defect (document : Document) : MalformedReason → Prop
  | .decisionsNotList =>
    ∃ members value, document.HoldsObject members ∧
      members.lookup "decisions" = some value ∧
      ∀ items, value ≠ .array items
  | .decisionNotObject index =>
    ∃ items, HoldsDecisions document items ∧ FirstNonObject items index
  | reason => document.ObjectDefect reason

theorem malformed_iff (document : Document) :
    Malformed document ↔ ∃ reason, Defect document reason := by
  constructor
  · rintro (hlacks | hlist | ⟨items, hholds, hitem⟩)
    · obtain ⟨reason, hdefect⟩ := Document.lacksObject_iff.mp hlacks
      refine ⟨reason, ?_⟩
      cases reason with
      | decisionsNotList => exact hdefect.elim
      | decisionNotObject index => exact hdefect.elim
      | _ => exact hdefect
    · exact ⟨.decisionsNotList, hlist⟩
    · obtain ⟨index, hfirst⟩ := exists_firstNonObject hitem
      exact ⟨.decisionNotObject index, items, hholds, hfirst⟩
  · rintro ⟨reason, hdefect⟩
    cases reason with
    | decisionsNotList => exact .inr (.inl hdefect)
    | decisionNotObject index =>
      obtain ⟨items, hholds, ⟨item, hitem, hnone⟩, _⟩ := hdefect
      exact .inr (.inr ⟨items, hholds, item, List.mem_of_getElem? hitem, hnone⟩)
    | notStructured =>
      exact .inl (Document.lacksObject_iff.mpr ⟨.notStructured, hdefect⟩)
    | notJson error =>
      exact .inl (Document.lacksObject_iff.mpr ⟨.notJson error, hdefect⟩)
    | notObject => exact .inl (Document.lacksObject_iff.mpr ⟨.notObject, hdefect⟩)
    | stated text => exact hdefect.elim

theorem decisionsOf_of_holdsDecisions {document : Document} {items : List Json}
    (h : HoldsDecisions document items) :
    decisionsOf document = decisionsFrom document.path 0 items := by
  obtain ⟨members, hobject, hlist | ⟨hnone, rfl⟩⟩ := h
  · simp [decisionsOf, Document.object_of_holdsObject hobject, decisions,
      Json.member?, hlist]
  · simp [decisionsOf, Document.object_of_holdsObject hobject, decisions,
      Json.member?, hnone, decisionsFrom]

theorem decisionsOf_of_objectDefect {document : Document} {reason : MalformedReason}
    (h : document.ObjectDefect reason) :
    decisionsOf document = .error (.malformed document.path reason) := by
  simp only [decisionsOf, Document.object_of_defect h]

theorem decisionsOf_of_defect {document : Document} {reason : MalformedReason}
    (h : Defect document reason) :
    decisionsOf document = .error (.malformed document.path reason) := by
  cases reason with
  | decisionsNotList =>
    obtain ⟨members, value, hobject, hfound, hlist⟩ := h
    simp only [decisionsOf, Document.object_of_holdsObject hobject, decisions,
      Json.member?, hfound]
  | decisionNotObject index =>
    obtain ⟨items, hholds, hfirst⟩ := h
    rw [decisionsOf_of_holdsDecisions hholds,
      decisionsFrom_of_firstNonObject _ 0 hfirst, Nat.zero_add]
  | notStructured => exact decisionsOf_of_objectDefect h
  | notJson error => exact decisionsOf_of_objectDefect h
  | notObject => exact decisionsOf_of_objectDefect h
  | stated text => exact h.elim

/-- A ledger that is not malformed holds items that are all objects. -/
theorem holdsObjects_of_not_malformed {document : Document}
    (h : ¬Malformed document) :
    ∃ items, HoldsDecisions document items ∧
      ∀ item ∈ items, item.isObject = true := by
  rcases document.lacksObject_or_holdsObject with hlacks | ⟨members, hobject⟩
  · exact absurd (.inl hlacks) h
  cases hfound : members.lookup "decisions" with
  | none => exact ⟨[], ⟨members, hobject, .inr ⟨hfound, rfl⟩⟩, by simp⟩
  | some value =>
    cases value with
    | array items =>
      have hholds : HoldsDecisions document items := ⟨members, hobject, .inl hfound⟩
      refine ⟨items, hholds, ?_⟩
      intro item hmember
      by_contra hitem
      exact h (.inr (.inr ⟨items, hholds, item, hmember, by simpa using hitem⟩))
    | _ => exact absurd (.inr (.inl ⟨members, _, hobject, hfound, by simp⟩)) h

theorem decisionsOf_of_not_malformed {document : Document}
    (h : ¬Malformed document) :
    ∃ items decisions, HoldsDecisions document items ∧
      decisionsOf document = .ok decisions ∧
      decisions.flatMap Decision.violations = items.flatMap lackingViolations := by
  obtain ⟨items, hholds, hobjects⟩ := holdsObjects_of_not_malformed h
  obtain ⟨decisions, hdecisions, hviolations⟩ :=
    decisionsFrom_of_objects document.path 0 hobjects
  exact ⟨items, decisions, hholds,
    (decisionsOf_of_holdsDecisions hholds).trans hdecisions, hviolations⟩

theorem decisionsOf_malformed_iff (document : Document) (reason : MalformedReason) :
    decisionsOf document = .error (.malformed document.path reason) ↔
      Defect document reason := by
  constructor
  · intro h
    by_cases hmalformed : Malformed document
    · obtain ⟨given, hdefect⟩ := (malformed_iff document).mp hmalformed
      rw [decisionsOf_of_defect hdefect] at h
      cases h
      exact hdefect
    · obtain ⟨items, decisions, _, hok, _⟩ :=
        decisionsOf_of_not_malformed hmalformed
      rw [hok] at h
      cases h
  · exact decisionsOf_of_defect

/-- The report on a ledger: its findings are what its items lack, in the order
of the ledger. -/
theorem report_spec (document : Document) {items : List Json}
    {decisions : List Decision}
    (h : decisions.flatMap Decision.violations = items.flatMap lackingViolations) :
    (report document decisions).header = some header ∧
      (report document decisions).documents = [⟨document.path, document.sha256⟩] ∧
      (report document decisions).findings =
        (items.flatMap lackingViolations).map fun violation =>
          ⟨violation, violation.message⟩ := by
  simp [report, Report.failAll_eq, h]

theorem lackingViolations_eq_nil_iff (item : Json) :
    lackingViolations item = [] ↔ ∀ approval, ¬Lacks item approval := by
  simp only [lackingViolations, List.map_eq_nil_iff, List.filter_eq_nil_iff,
    decide_eq_true_eq]
  constructor
  · intro h approval
    exact h approval (by cases approval <;> simp)
  · intro h approval _
    exact h approval

/-- The approval gate from the source to the report. A ledger that cannot be
read gives the error of reading it and one that is absent a single bare line. A
malformed one gives an error with the reason for it and no finding at all. Any
other ledger is reported on item by item. -/
theorem run_reports_what_ledger_lacks (source : Source) (config : ApprovalsConfig) :
    match source.load config.ledger with
    | .error error => run source config = .error error
    | .ok none =>
      ∃ report, run source config = .ok report ∧ report.header = none ∧
        report.documents = [] ∧
        report.findings =
          [⟨.missingArtifact config.ledger, "missing " ++ config.ledger⟩]
    | .ok (some document) =>
      ((∃ reason, run source config = .error (.malformed config.ledger reason)) ↔
          Malformed document) ∧
        (∀ reason, run source config = .error (.malformed config.ledger reason) ↔
          Defect document reason) ∧
        (¬Malformed document →
          ∃ items report, HoldsDecisions document items ∧
            run source config = .ok report ∧
            report.header = some "impact approval check failed:" ∧
            report.documents = [⟨config.ledger, document.sha256⟩] ∧
            report.findings = items.flatMap (fun item =>
              ([Approval.finance, .controls].filter (Lacks item)).map fun approval =>
                ⟨.approvalMissing (label (item.member? "id")) approval,
                  label (item.member? "id") ++ ": " ++ approval.name ++
                    " approval missing"⟩) ∧
            (report.passed = true ↔
              ∀ item ∈ items, ∀ approval, ¬Lacks item approval)) := by
  cases hload : source.load config.ledger with
  | error error => simp [run, hload]
  | ok loaded =>
    cases loaded with
    | none =>
      have hrun : run source config = .ok (missingReport config.ledger) := by
        simp [run, hload]
      exact ⟨missingReport config.ledger, hrun, rfl, rfl, rfl⟩
    | some document =>
      have hpath : document.path = config.ledger := Source.path_of_load hload
      have hrun : run source config =
          (decisionsOf document).map (report document) := by
        simp [run, hload]
      have herror (reason : MalformedReason) :
          run source config = .error (.malformed config.ledger reason) ↔
            Defect document reason := by
        rw [hrun, ← hpath, ← decisionsOf_malformed_iff document reason]
        cases decisionsOf document <;> simp [Except.map]
      refine ⟨?_, herror, ?_⟩
      · simp only [herror]
        exact (malformed_iff document).symm
      · intro hwell
        obtain ⟨items, decisions, hholds, hdecisions, hviolations⟩ :=
          decisionsOf_of_not_malformed hwell
        obtain ⟨hheader, hdocuments, hfindings⟩ := report_spec document hviolations
        refine ⟨items, report document decisions, hholds, ?_, hheader, ?_, ?_, ?_⟩
        · rw [hrun, hdecisions]
          rfl
        · rw [hdocuments, hpath]
        · rw [hfindings, List.map_flatMap]
          simp only [lackingViolations, List.map_map]
          rfl
        · rw [Report.passed_iff, hfindings]
          simp [lackingViolations_eq_nil_iff]

end Compliance.Approvals
