import Compliance.Proofs.Families
import Compliance.Proofs.StructuredDocuments

/-!
Which configurations are accepted, and what is said of the others. In an accepted
configuration no list is empty, the ledger has a name and the pointer a slash in front,
and the names of the families differ; a snippet or a path may still be an empty text, so
a gate can be left with nothing to check. Of the faults of a refused one the first is
told: the rules of the fixed parts come first, in their order, then the families in
theirs, and a family is told of for its name before its documents and for its documents
before their snippets.
-/

namespace Compliance.Config

/-- No list is empty, the ledger is not blank, the pointer begins with a slash, and names
tell the families apart. -/
structure IsMeaningful (config : Config) : Prop where
  requiredPaths : config.freeze.requiredPaths ≠ []
  ledger : ∃ c ∈ config.approvals.ledger.toList, Text.isBlank c = false
  requiredFields : ∃ name, name ∈ config.schema.requiredFields
  eventTypes : ∃ name, name ∈ config.schema.eventTypes
  enumPointer : ∃ rest, config.schema.enumPointer.toList = '/' :: rest
  familyNames : (config.evidence.map EvidenceConfig.family).Nodup
  evidence : ∀ family ∈ config.evidence, HasEvidence family

/-- The rules of the fixed parts, in the order in which they are checked, each with the
fault of breaking it. -/
def partRules (config : Config) : List (Prop × Fault) :=
  [(config.freeze.requiredPaths ≠ [], .noRequiredPaths),
    ((∃ c ∈ config.approvals.ledger.toList, Text.isBlank c = false), .noLedger),
    ((∃ name, name ∈ config.schema.requiredFields), .noRequiredFields),
    ((∃ name, name ∈ config.schema.eventTypes), .noEventTypes),
    ((∃ rest, config.schema.enumPointer.toList = '/' :: rest),
      .notPointer config.schema.enumPointer)]

/-- The fault belongs to the first rule that is broken. -/
inductive FirstBroken : List (Prop × Fault) → Fault → Prop
  | here {rule : Prop} {fault : Fault} {rest : List (Prop × Fault)} (h : ¬rule) :
    FirstBroken ((rule, fault) :: rest) fault
  | later {rule : Prop} {other fault : Fault} {rest : List (Prop × Fault)} (h : rule)
    (hrest : FirstBroken rest fault) : FirstBroken ((rule, other) :: rest) fault

/-- What is wrong with a family that stands behind others. -/
inductive FamilyFault (earlier : List EvidenceConfig) (family : EvidenceConfig) :
    Fault → Prop
  | repeated (hname : ∃ other ∈ earlier, other.family = family.family) :
    FamilyFault earlier family (.repeatedFamily family.family)
  | noDocuments (hname : ∀ other ∈ earlier, other.family ≠ family.family)
    (hdocuments : family.documents = []) :
    FamilyFault earlier family (.noDocuments family.family)
  | noSnippets {front behind : List EvidenceDocument} {document : EvidenceDocument}
    (hname : ∀ other ∈ earlier, other.family ≠ family.family)
    (hdocuments : family.documents = front ++ document :: behind)
    (hfront : ∀ other ∈ front, other.snippets ≠ [])
    (hsnippets : document.snippets = []) :
    FamilyFault earlier family (.noSnippets family.family document.path)

/-- Nothing is wrong with a family behind these others. -/
def Faultless (earlier : List EvidenceConfig) (family : EvidenceConfig) : Prop :=
  ∀ fault, ¬FamilyFault earlier family fault

/-- The fault is that of the least position at which something is wrong with a family. -/
def FirstFamilyFault (earlier families : List EvidenceConfig) (fault : Fault) : Prop :=
  ∃ index family, families[index]? = some family ∧
    FamilyFault (earlier ++ families.take index) family fault ∧
    ∀ before < index, ∀ other, families[before]? = some other →
      Faultless (earlier ++ families.take before) other

/-- The fault that comes first in a configuration. -/
inductive FirstFault (config : Config) (fault : Fault) : Prop
  | part (h : FirstBroken config.partRules fault)
  | family (hparts : ∀ rule ∈ config.partRules, rule.1)
    (h : FirstFamilyFault [] config.evidence fault)

/-! ## Families -/

section Families

variable {earlier rest : List EvidenceConfig} {family : EvidenceConfig} {fault : Fault}

theorem exists_noSnippets_of_not_forall {documents : List EvidenceDocument}
    (h : ¬∀ document ∈ documents, document.snippets ≠ []) :
    ∃ front document behind, documents = front ++ document :: behind ∧
      (∀ other ∈ front, other.snippets ≠ []) ∧ document.snippets = [] := by
  have hfound : (documents.find? (·.snippets.isEmpty)).isSome = true := by
    simpa using h
  obtain ⟨document, hdocument⟩ := Option.isSome_iff_exists.mp hfound
  obtain ⟨hempty, front, behind, hsplit, hfront⟩ :=
    List.find?_eq_some_iff_append.mp hdocument
  exact ⟨front, document, behind, hsplit, by simpa using hfront, by simpa using hempty⟩

theorem faultless_iff :
    Faultless earlier family ↔
      (∀ other ∈ earlier, other.family ≠ family.family) ∧ HasEvidence family := by
  constructor
  · intro h
    have hname : ∀ other ∈ earlier, other.family ≠ family.family := by
      intro other hother hsame
      exact h _ (.repeated ⟨other, hother, hsame⟩)
    refine ⟨hname, fun hnone => h _ (.noDocuments hname hnone), ?_⟩
    by_contra hsnippets
    obtain ⟨front, document, behind, hsplit, hfront, hempty⟩ :=
      exists_noSnippets_of_not_forall hsnippets
    exact h _ (.noSnippets hname hsplit hfront hempty)
  · rintro ⟨hname, hdocuments, hsnippets⟩ fault hfault
    cases hfault with
    | repeated hrepeated =>
      obtain ⟨other, hother, hsame⟩ := hrepeated
      exact hname other hother hsame
    | noDocuments _ hnone => exact hdocuments hnone
    | noSnippets _ hsplit _ hempty => exact hsnippets _ (by simp [hsplit]) hempty

theorem firstFamilyFault_nil : ¬FirstFamilyFault earlier [] fault := by
  rintro ⟨index, family, hfamily, _⟩
  simp at hfamily

/-- The first family is told of if something is wrong with it, and else it is one of
those that the others stand behind. -/
theorem firstFamilyFault_cons :
    FirstFamilyFault earlier (family :: rest) fault ↔
      FamilyFault earlier family fault ∨
        Faultless earlier family ∧ FirstFamilyFault (earlier ++ [family]) rest fault := by
  -- A place among the others is one further on in the whole, behind one family more.
  have hbehind (index : Nat) : earlier ++ (family :: rest).take (index + 1) =
      earlier ++ [family] ++ rest.take index := by simp
  constructor
  · rintro ⟨index, other, hother, hfault, hbefore⟩
    cases index with
    | zero =>
      cases hother
      exact .inl (by simpa using hfault)
    | succ index =>
      refine .inr ⟨by simpa using hbefore 0 (by omega) family rfl, index, other, hother,
        hbehind index ▸ hfault, ?_⟩
      intro before hlt sound hsound
      exact hbehind before ▸ hbefore (before + 1) (by omega) sound hsound
  · rintro (hfault | ⟨hfaultless, index, other, hother, hfault, hbefore⟩)
    · exact ⟨0, family, rfl, by simpa using hfault, by simp⟩
    · refine ⟨index + 1, other, hother, hbehind index ▸ hfault, ?_⟩
      intro before hlt sound hsound
      cases before with
      | zero =>
        cases hsound
        simpa using hfaultless
      | succ before =>
        rw [hbehind]
        exact hbefore before (by omega) sound hsound

/-- A walk over families has seen the names of those behind it, and no others. -/
def Seen (seen : List String) (earlier : List EvidenceConfig) : Prop :=
  ∀ name, name ∈ seen ↔ ∃ other ∈ earlier, other.family = name

theorem Seen.cons {seen : List String} (h : Seen seen earlier) (family : EvidenceConfig) :
    Seen (family.family :: seen) (earlier ++ [family]) := by
  intro name
  simp only [List.mem_cons, h name, List.mem_append, or_and_right, exists_or,
    exists_eq_left, or_false, List.not_mem_nil]
  rw [or_comm, eq_comm]

theorem Seen.not_mem_iff {seen : List String} (h : Seen seen earlier) {name : String} :
    name ∉ seen ↔ ∀ other ∈ earlier, other.family ≠ name := by
  simp [h name]

theorem validateFamilies_of_fault {seen : List String} (hseen : Seen seen earlier)
    (h : FamilyFault earlier family fault) :
    validateFamilies seen (family :: rest) = .error fault := by
  rw [validateFamilies]
  cases h with
  | repeated hname => simp [(hseen _).mpr hname]
  | noDocuments hname hdocuments => simp [hseen.not_mem_iff.mpr hname, hdocuments]
  | @noSnippets front behind document hname hdocuments hfront hsnippets =>
    have hfind : family.documents.find? (·.snippets.isEmpty) = some document := by
      rw [List.find?_eq_some_iff_append]
      exact ⟨by simpa using hsnippets, front, behind, hdocuments, by simpa using hfront⟩
    have hsome : family.documents ≠ [] := by simp [hdocuments]
    simp [hseen.not_mem_iff.mpr hname, hsome, hfind]

theorem validateFamilies_of_faultless {seen : List String} (hseen : Seen seen earlier)
    (h : Faultless earlier family) :
    validateFamilies seen (family :: rest) =
      validateFamilies (family.family :: seen) rest := by
  obtain ⟨hname, hdocuments, hsnippets⟩ := faultless_iff.mp h
  have hfind : family.documents.find? (·.snippets.isEmpty) = none := by
    simpa using hsnippets
  rw [validateFamilies]
  simp [hseen.not_mem_iff.mpr hname, hdocuments, hfind]

/-- The walk over the families stops at the first fault. -/
theorem validateFamilies_eq_error_iff {seen : List String}
    {families : List EvidenceConfig} (hseen : Seen seen earlier) :
    validateFamilies seen families = .error fault ↔
      FirstFamilyFault earlier families fault := by
  -- By induction on the families to come; of those behind only the names are seen.
  induction families generalizing seen earlier with
  | nil => simp [validateFamilies, firstFamilyFault_nil]
  | cons family rest ih =>
    rw [firstFamilyFault_cons]
    by_cases hfaultless : Faultless earlier family
    · rw [validateFamilies_of_faultless hseen hfaultless, ih (hseen.cons family)]
      simp [hfaultless, hfaultless fault]
    · obtain ⟨told, htold⟩ := not_forall_not.mp hfaultless
      have hstops : validateFamilies seen (family :: rest) = .error told :=
        validateFamilies_of_fault hseen htold
      rw [hstops]
      constructor
      · intro hsame
        cases hsame
        exact .inl htold
      · rintro (hfault | ⟨hnone, _⟩)
        · exact hstops.symm.trans (validateFamilies_of_fault hseen hfault)
        · exact absurd hnone hfaultless

end Families

/-! ## The fixed parts -/

theorem kept_or_firstBroken (rules : List (Prop × Fault)) :
    (∀ rule ∈ rules, rule.1) ∨ ∃ fault, FirstBroken rules fault := by
  induction rules with
  | nil => simp
  | cons head rest ih =>
    by_cases hrule : head.1
    · rcases ih with hkept | ⟨fault, hbroken⟩
      · exact .inl (List.forall_mem_cons.mpr ⟨hrule, hkept⟩)
      · exact .inr ⟨fault, .later hrule hbroken⟩
    · exact .inr ⟨head.2, .here hrule⟩

/-- The result of checking rules one after the other, and then something else. -/
structure Checks (rules : List (Prop × Fault)) (next result : Except Fault Unit) :
    Prop where
  broken : ∀ fault, FirstBroken rules fault → result = .error fault
  kept : (∀ rule ∈ rules, rule.1) → result = next

theorem Checks.nil (next : Except Fault Unit) : Checks [] next next where
  broken fault h := by cases h
  kept _ := rfl

theorem Checks.cons {rule test : Prop} [Decidable test] {fault : Fault}
    {rules : List (Prop × Fault)} {next result : Except Fault Unit}
    (htest : test ↔ ¬rule) (h : Checks rules next result) :
    Checks ((rule, fault) :: rules) next (if test then .error fault else result) where
  broken told hbroken := by
    cases hbroken with
    | here hrule => rw [if_pos (htest.mpr hrule)]
    | later hrule hrest =>
      rw [if_neg (mt htest.mp (not_not.mpr hrule))]
      exact h.broken told hrest
  kept hkept := by
    obtain ⟨hrule, hrules⟩ := List.forall_mem_cons.mp hkept
    rw [if_neg (mt htest.mp (not_not.mpr hrule))]
    exact h.kept hrules

theorem isBlankText_iff {text : String} :
    isBlankText text = true ↔ ¬∃ c ∈ text.toList, Text.isBlank c = false := by
  simp [isBlankText]

theorem head?_ne_slash_iff {text : List Char} :
    text.head? ≠ some '/' ↔ ¬∃ rest, text = '/' :: rest := by
  cases text <;> simp

/-- Validation checks the rules of the parts, and then the families. -/
theorem validate_checks (config : Config) :
    Checks config.partRules (validateFamilies [] config.evidence) config.validate := by
  have hnames (set : NameSet) : set.isEmpty = true ↔ ¬∃ name, name ∈ set := by
    rw [NameSet.isEmpty_iff, not_exists]
  unfold validate
  apply Checks.cons (by simp)
  apply Checks.cons isBlankText_iff
  apply Checks.cons (hnames _)
  apply Checks.cons (hnames _)
  apply Checks.cons head?_ne_slash_iff
  exact Checks.nil _

theorem validate_eq_error_iff {config : Config} {fault : Fault} :
    config.validate = .error fault ↔ config.FirstFault fault := by
  have hchecks := validate_checks config
  have hfamilies : validateFamilies [] config.evidence = .error fault ↔
      FirstFamilyFault [] config.evidence fault :=
    validateFamilies_eq_error_iff (by simp [Seen])
  constructor
  · intro h
    rcases kept_or_firstBroken config.partRules with hkept | ⟨told, hbroken⟩
    · exact .family hkept (hfamilies.mp ((hchecks.kept hkept).symm.trans h))
    · cases (hchecks.broken told hbroken).symm.trans h
      exact .part hbroken
  · rintro (hbroken | ⟨hkept, hfault⟩)
    · exact hchecks.broken fault hbroken
    · exact (hchecks.kept hkept).trans (hfamilies.mpr hfault)

theorem validate_ok_iff {config : Config} :
    config.validate = .ok () ↔ config.IsMeaningful := by
  have hchecks := validate_checks config
  have hfamilies := validateFamilies_ok_iff [] config.evidence
  constructor
  · intro h
    rcases kept_or_firstBroken config.partRules with hkept | ⟨told, hbroken⟩
    · obtain ⟨_, hnodup, hevidence⟩ := hfamilies.mp ((hchecks.kept hkept).symm.trans h)
      simp only [partRules, List.forall_mem_cons] at hkept
      obtain ⟨hpaths, hledger, hfields, htypes, hpointer, _⟩ := hkept
      exact ⟨hpaths, hledger, hfields, htypes, hpointer, hnodup, hevidence⟩
    · cases (hchecks.broken told hbroken).symm.trans h
  · intro h
    rw [hchecks.kept]
    · exact hfamilies.mpr ⟨by simp, h.familyNames, h.evidence⟩
    · simp only [partRules, List.forall_mem_cons]
      exact ⟨h.requiredPaths, h.ledger, h.requiredFields, h.eventTypes, h.enumPointer,
        by simp⟩

/-- Validation accepts the configurations that keep the rules for their values, and only
these. Any other is refused for the fault that comes first in it. -/
theorem validate_tells_first_fault (config : Config) :
    (config.validate = .ok () ↔ config.IsMeaningful) ∧
      ∀ fault, config.validate = .error fault ↔ config.FirstFault fault :=
  ⟨validate_ok_iff, fun _ => validate_eq_error_iff⟩

example :
    validateFamilies []
      [{ family := "drill", documents := [⟨"drill.md", ["closed"]⟩] },
        { family := "access", documents := [⟨"a.md", ["signed"]⟩, ⟨"b.md", []⟩] },
        { family := "drill", documents := [] }] =
      .error (.noSnippets "access" "b.md") := by decide

end Compliance.Config
