import Compliance.Proofs.CompactText
import Compliance.Proofs.GateRefinement
import Compliance.Proofs.PointedArrays

/-!
What the schema gate says about a schema. A schema that is an object is judged by the
two sets of names that it declares: all required fields have to be among the fields,
and the event types have to be exactly the expected ones. Fields that are missing are
reported whatever the event types are. How the two arrays are arranged, and what
stands in them besides strings, has no part in it.
-/

namespace Compliance.Schema

/-- All required fields are declared; others may be as well. -/
def DeclaresFields (config : SchemaConfig) (schema : Json) : Prop :=
  ∀ field ∈ config.requiredFields, schema.Declares "/required" field

/-- The event types are the expected ones, no more and no less. -/
def DeclaresEventTypes (config : SchemaConfig) (schema : Json) : Prop :=
  ∀ name, schema.Declares config.enumPointer name ↔ name ∈ config.eventTypes

/-- What a report has to say about a schema, the fields before the event types. -/
structure Judges (config : SchemaConfig) (schema : Json) (report : Report) : Prop where
  bare : report.header = none
  passed : report.passed = true ↔
    DeclaresFields config schema ∧ DeclaresEventTypes config schema
  incomplete : ¬DeclaresFields config schema → ∃ missing,
    report.findings = [⟨.incompleteFields config.path missing,
      "schema required fields missing: " ++ Text.quotedList missing⟩] ∧
    Enumerates missing fun field => field ∈ config.requiredFields ∧
      ¬schema.Declares "/required" field
  mismatched : DeclaresFields config schema → ¬DeclaresEventTypes config schema →
    ∃ expected actual,
      report.findings = [⟨.enumMismatch config.path config.enumField expected actual,
        config.enumField ++ " enum mismatch: expected " ++ Text.quotedList expected ++
          ", got " ++ Text.quotedList actual⟩] ∧
      Enumerates expected (· ∈ config.eventTypes) ∧
      Enumerates actual (schema.Declares config.enumPointer)

/-- The first thing that is wrong with a schema. -/
def firstDefect (config : SchemaConfig) (schema : Json) : Option Violation :=
  (Requirement.checkFieldCoverage config.path schema config.requiredFields ++
    Requirement.checkEnumEquality config.path config.enumPointer config.enumField
      schema config.eventTypes).head?

variable {config : SchemaConfig}

theorem firstViolation_of_holdsObject {document : Document}
    {members : List (String × Json)} (hpath : document.path = config.path)
    (h : document.HoldsObject members) :
    Requirement.firstViolation document (requirements config) =
      .ok (firstDefect config (.object members)) := by
  have hobject := Document.object_of_holdsObject h
  simp only [requirements, Requirement.firstViolation, Requirement.evaluateDocument,
    hobject, hpath, Except.map, firstDefect]
  cases Requirement.checkFieldCoverage config.path (.object members)
      config.requiredFields with
  | cons violation others => rfl
  | nil =>
    simp only [List.nil_append]
    cases Requirement.checkEnumEquality config.path config.enumPointer
        config.enumField (.object members) config.eventTypes <;> rfl

theorem firstViolation_of_defect {document : Document} {reason : MalformedReason}
    (h : document.ObjectDefect reason) :
    Requirement.firstViolation document (requirements config) =
      .error (.malformed document.path reason) := by
  simp only [requirements, Requirement.firstViolation, Requirement.evaluateDocument,
    Document.object_of_defect h, Except.map]

theorem run_of_load {source : Source} {document : Document}
    (hload : source.load config.path = .ok (some document)) :
    run source config =
      (Requirement.firstViolation document (requirements config)).map
        (report document) := by
  simp only [run, hload]

theorem run_of_holdsObject {source : Source} {document : Document}
    {members : List (String × Json)}
    (hload : source.load config.path = .ok (some document))
    (h : document.HoldsObject members) :
    run source config =
      .ok (report document (firstDefect config (.object members))) := by
  rw [run_of_load hload, firstViolation_of_holdsObject (Source.path_of_load hload) h]
  rfl

theorem run_malformed_iff {source : Source} {document : Document}
    (hload : source.load config.path = .ok (some document))
    (reason : MalformedReason) :
    run source config = .error (.malformed config.path reason) ↔
      document.ObjectDefect reason := by
  rw [← Source.path_of_load hload]
  constructor
  · intro h
    rcases document.lacksObject_or_holdsObject with hlacks | ⟨members, hholds⟩
    · obtain ⟨given, hdefect⟩ := Document.lacksObject_iff.mp hlacks
      rw [run_of_load hload, firstViolation_of_defect hdefect] at h
      cases h
      exact hdefect
    · rw [run_of_holdsObject hload hholds] at h
      cases h
  · intro h
    rw [run_of_load hload, firstViolation_of_defect h]
    rfl

/-! ## The findings on an object -/

theorem report_findings (document : Document) (found : Option Violation) :
    (report document found).findings =
      found.toList.map fun violation => ⟨violation, violation.message⟩ := by
  cases found <;> rfl

theorem report_header (document : Document) (found : Option Violation) :
    (report document found).header = none := by
  cases found <;> rfl

theorem report_documents (document : Document) (found : Option Violation) :
    (report document found).documents = [⟨document.path, document.sha256⟩] := by
  cases found <;> rfl

/-- What was found makes a report, but for the digest of the schema. -/
theorem report_eq (document other : Document) (found : Option Violation) :
    report other found =
      { report document found with documents := [⟨other.path, other.sha256⟩] } := by
  cases found <;> rfl

theorem checkFieldCoverage_eq_nil_iff (schema : Json) :
    Requirement.checkFieldCoverage config.path schema config.requiredFields = [] ↔
      DeclaresFields config schema :=
  (Requirement.checkFieldCoverage_verdict _ _ _).1

theorem report_judges (document : Document) (schema : Json) :
    Judges config schema (report document (firstDefect config schema)) := by
  have hfields : _ ↔ DeclaresFields config schema := checkFieldCoverage_eq_nil_iff schema
  obtain ⟨_, hmissing⟩ := Requirement.checkFieldCoverage_verdict config.path
    config.requiredFields schema
  obtain ⟨htypes, hmismatch⟩ := Requirement.checkEnumEquality_verdict config.path
    config.enumPointer config.enumField config.eventTypes schema
  refine ⟨report_header _ _, ?_, ?_, ?_⟩
  · rw [Report.passed_iff, report_findings, firstDefect, List.map_eq_nil_iff,
      Option.toList_eq_nil_iff, List.head?_eq_none_iff, List.append_eq_nil_iff,
      hfields, htypes]
    rfl
  · intro hlacking
    obtain ⟨missing, hfound, henumerates⟩ :=
      hmissing.resolve_left (mt hfields.mp hlacking)
    refine ⟨missing, ?_, henumerates⟩
    rw [report_findings, firstDefect, hfound]
    rfl
  · intro hdeclared hother
    obtain ⟨expected, actual, hfound, hexpected, hactual⟩ :=
      hmismatch.resolve_left (mt htypes.mp hother)
    refine ⟨expected, actual, ?_, hexpected, hactual⟩
    rw [report_findings, firstDefect, hfields.mpr hdeclared, hfound]
    rfl

/-! ## What the findings do not depend on -/

theorem stringSet_congr {schema other : Json} {pointer : String}
    (h : ∀ name, other.Declares pointer name ↔ schema.Declares pointer name) :
    other.stringSet pointer = schema.stringSet pointer := by
  rw [NameSet.eq_iff]
  simpa only [Json.mem_stringSet] using h

/-- Schemas that declare the same two sets of names have the same findings. -/
theorem firstDefect_of_stringSet_eq {schema other : Json}
    (hfields : other.stringSet "/required" = schema.stringSet "/required")
    (htypes : other.stringSet config.enumPointer = schema.stringSet config.enumPointer) :
    firstDefect config other = firstDefect config schema := by
  rw [firstDefect, firstDefect, Requirement.checkFieldCoverage,
    Requirement.checkFieldCoverage, Requirement.requiredPointer, hfields,
    Requirement.checkEnumEquality, Requirement.checkEnumEquality, htypes]

theorem firstDefect_congr {schema other : Json}
    (hfields : ∀ name, other.Declares "/required" name ↔
      schema.Declares "/required" name)
    (htypes : ∀ name, other.Declares config.enumPointer name ↔
      schema.Declares config.enumPointer name) :
    firstDefect config other = firstDefect config schema :=
  firstDefect_of_stringSet_eq (stringSet_congr hfields) (stringSet_congr htypes)

/-- More fields than a schema needs make no difference. -/
theorem firstDefect_of_more_fields {schema other : Json}
    (hdeclared : DeclaresFields config schema)
    (hfields : ∀ name, schema.Declares "/required" name →
      other.Declares "/required" name)
    (htypes : ∀ name, other.Declares config.enumPointer name ↔
      schema.Declares config.enumPointer name) :
    firstDefect config other = firstDefect config schema := by
  have hmore : DeclaresFields config other :=
    fun field hfield => hfields field (hdeclared field hfield)
  rw [firstDefect, firstDefect, Requirement.checkEnumEquality,
    Requirement.checkEnumEquality, stringSet_congr htypes,
    (checkFieldCoverage_eq_nil_iff schema).mpr hdeclared,
    (checkFieldCoverage_eq_nil_iff other).mpr hmore]

/-- A schema, and the text of the same schema with the array under some tokens
exchanged. -/
structure Edited (config : SchemaConfig) (tokens : List String)
    (items given : List Json) (before after : Source) (document edited : Document)
    (members changed : List (String × Json)) : Prop where
  loadsBefore : before.load config.path = .ok (some document)
  loadsAfter : after.load config.path = .ok (some edited)
  holdsBefore : document.HoldsObject members
  holdsAfter : edited.HoldsObject changed
  array : Json.Pointer.follow (.object members) tokens = some (.array items)
  exchanged : Json.Pointer.exchange? (.array given) tokens (.object members) =
    some (.object changed)

/-- The gate comes to the same findings; only the digest of the schema may be
another one. -/
def SameFindings (config : SchemaConfig) (before after : Source) (edited : Document) :
    Prop :=
  ∃ report, run before config = .ok report ∧
    run after config =
      .ok { report with documents := [⟨config.path, edited.sha256⟩] }

/-- The event types do not stand in the array of fields. -/
def TypesApart (config : SchemaConfig) : Prop :=
  ∀ tokens, Json.Pointer.tokens? config.enumPointer.toList = some tokens →
    tokens.head? ≠ some "required"

section Edits

variable {tokens : List String} {items given : List Json} {before after : Source}
  {document edited : Document} {members changed : List (String × Json)}

theorem tokens?_required :
    Json.Pointer.tokens? "/required".toList = some ["required"] := by
  decide

theorem Edited.sameFindings
    (h : Edited config tokens items given before after document edited members changed)
    (hsame : firstDefect config (.object changed) =
      firstDefect config (.object members)) :
    SameFindings config before after edited := by
  refine ⟨_, run_of_holdsObject h.loadsBefore h.holdsBefore, ?_⟩
  rw [run_of_holdsObject h.loadsAfter h.holdsAfter, hsame, report_eq document edited,
    Source.path_of_load h.loadsAfter]

theorem Edited.declares_iff
    (h : Edited config tokens items given before after document edited members changed)
    {pointer : String} (hpointer : Json.Pointer.tokens? pointer.toList = some tokens)
    (name : String) :
    ((Json.object members).Declares pointer name ↔ .string name ∈ items) ∧
      ((Json.object changed).Declares pointer name ↔ .string name ∈ given) :=
  ⟨Json.declares_iff_of_follow hpointer h.array name,
    Json.declares_iff_of_follow hpointer
      (Json.Pointer.follow_of_exchange? h.exchanged) name⟩

/-- An object is no array, so there is a token that leads into it. -/
theorem Edited.exists_token
    (h : Edited config tokens items given before after document edited members changed) :
    ∃ token rest, tokens = token :: rest := by
  cases tokens with
  | nil => cases h.array
  | cons token rest => exact ⟨token, rest, rfl⟩

theorem Edited.types_iff_of_fields
    (h : Edited config ["required"] items given before after document edited members
      changed)
    (hapart : TypesApart config) (name : String) :
    (Json.object changed).Declares config.enumPointer name ↔
      (Json.object members).Declares config.enumPointer name :=
  Json.declares_iff_of_exchange? h.exchanged hapart name

theorem Edited.fields_iff_of_types
    (h : Edited config tokens items given before after document edited members changed)
    (hapart : TypesApart config)
    (htypes : Json.Pointer.tokens? config.enumPointer.toList = some tokens)
    (name : String) :
    (Json.object changed).Declares "/required" name ↔
      (Json.object members).Declares "/required" name := by
  obtain ⟨token, rest, rfl⟩ := h.exists_token
  apply Json.declares_iff_of_exchange? h.exchanged
  intro path hpath
  rw [tokens?_required, Option.some.injEq] at hpath
  subst hpath
  intro hsame
  exact hapart _ htypes hsame.symm

/-- Rearranging one of the two arrays does not change the findings. -/
theorem Edited.sameFindings_of_rearranged
    (h : Edited config tokens items given before after document edited members changed)
    (hapart : TypesApart config)
    (hplace : tokens = ["required"] ∨
      Json.Pointer.tokens? config.enumPointer.toList = some tokens)
    (hgiven : Json.Rearranged items given) :
    SameFindings config before after edited := by
  have hsame (pointer : String)
      (hpointer : Json.Pointer.tokens? pointer.toList = some tokens) (name : String) :
      (Json.object changed).Declares pointer name ↔
        (Json.object members).Declares pointer name := by
    obtain ⟨hbefore, hafter⟩ := h.declares_iff hpointer name
    rw [hbefore, hafter, hgiven.string_mem_iff]
  apply h.sameFindings
  rcases hplace with rfl | htypes
  · exact firstDefect_congr (hsame _ tokens?_required) (h.types_iff_of_fields hapart)
  · exact firstDefect_congr (h.fields_iff_of_types hapart htypes) (hsame _ htypes)

/-- A schema that has all required fields may list more of them. -/
theorem Edited.sameFindings_of_more_fields
    (h : Edited config ["required"] items given before after document edited members
      changed)
    (hapart : TypesApart config) {extra : List String}
    (hgiven : Json.Rearranged (extra.map .string ++ items) given)
    (hdeclared : DeclaresFields config (.object members)) :
    SameFindings config before after edited := by
  apply h.sameFindings
  refine firstDefect_of_more_fields hdeclared ?_ (h.types_iff_of_fields hapart)
  intro name
  obtain ⟨hbefore, hafter⟩ := h.declares_iff tokens?_required name
  rw [hbefore, hafter, hgiven.string_mem_iff]
  exact List.mem_append_right _

theorem Edited.passes_of_more_fields
    (h : Edited config ["required"] items given before after document edited members
      changed)
    (hapart : TypesApart config) {extra : List String}
    (hgiven : Json.Rearranged (extra.map .string ++ items) given)
    (hpasses : Passes (run before config)) : Passes (run after config) := by
  obtain ⟨made, hmade, hclean⟩ := hpasses
  have hrun := hmade
  rw [run_of_holdsObject h.loadsBefore h.holdsBefore, Except.ok.injEq] at hrun
  have hdeclared : DeclaresFields config (.object members) :=
    ((report_judges document (.object members)).passed.mp
      (Report.passed_iff.mpr (hrun ▸ hclean))).1
  obtain ⟨found, hbefore, hafter⟩ :=
    h.sameFindings_of_more_fields hapart hgiven hdeclared
  rw [hmade, Except.ok.injEq] at hbefore
  exact ⟨_, hafter, hbefore ▸ hclean⟩

end Edits

/-- The schema gate from the source to the report, for any pointer and any sets of
names. A schema that cannot be read gives the error of reading it, and one that is
absent the line configured for that. A document without an object in it is an error
with the reason for it. Any other schema is judged by what it declares, so the gate
finds the same after either of the two arrays is rearranged, and fields beyond the
required ones do no harm. -/
theorem run_judges_declared_names (config : SchemaConfig) :
    (∀ source : Source,
      match source.load config.path with
      | .error error => run source config = .error error
      | .ok none =>
        ∃ report, run source config = .ok report ∧ report.header = none ∧
          report.documents = [] ∧
          report.findings = [⟨.missingArtifact config.path, config.missingMessage⟩]
      | .ok (some document) =>
        ((∃ reason, run source config = .error (.malformed config.path reason)) ↔
            document.LacksObject) ∧
          (∀ reason, run source config = .error (.malformed config.path reason) ↔
            document.ObjectDefect reason) ∧
          (¬document.LacksObject →
            ∃ members report, document.HoldsObject members ∧
              run source config = .ok report ∧
              report.documents = [⟨config.path, document.sha256⟩] ∧
              Judges config (.object members) report)) ∧
      (TypesApart config →
        ∀ tokens items given before after document edited members changed,
          Edited config tokens items given before after document edited members
              changed →
            (tokens = ["required"] ∨
                Json.Pointer.tokens? config.enumPointer.toList = some tokens →
              Json.Rearranged items given → SameFindings config before after edited) ∧
            (tokens = ["required"] →
              ∀ extra : List String,
                Json.Rearranged (extra.map .string ++ items) given →
                  (Passes (run before config) → Passes (run after config)) ∧
                  (DeclaresFields config (.object members) →
                    SameFindings config before after edited))) := by
  constructor
  · intro source
    cases hload : source.load config.path with
    | error error => simp only [run, hload]
    | ok loaded =>
      cases loaded with
      | none =>
        have hrun : run source config = .ok (missingReport config) := by
          simp only [run, hload]
        exact ⟨missingReport config, hrun, rfl, rfl, rfl⟩
      | some document =>
        have hmalformed := run_malformed_iff hload
        refine ⟨?_, hmalformed, ?_⟩
        · simp only [hmalformed]
          exact Document.lacksObject_iff.symm
        · intro hobject
          obtain ⟨members, hholds⟩ :=
            document.lacksObject_or_holdsObject.resolve_left hobject
          refine ⟨members, _, hholds, run_of_holdsObject hload hholds, ?_,
            report_judges document _⟩
          rw [report_documents, Source.path_of_load hload]
  · intro hapart tokens items given before after document edited members changed
      hedited
    refine ⟨fun hplace => hedited.sameFindings_of_rearranged hapart hplace, ?_⟩
    rintro rfl extra hgiven
    exact ⟨hedited.passes_of_more_fields hapart hgiven,
      hedited.sameFindings_of_more_fields hapart hgiven⟩

/-- Orders have an id and a state, and there is one type of them. -/
def orderConfig : SchemaConfig where
  path := "orders.json"
  requiredFields := .ofList ["id", "state"]
  enumPointer := "/types"
  eventTypes := .ofList ["order.v1"]

def orderMembers (fields types : List Json) : List (String × Json) :=
  [("required", .array fields), ("types", .array types)]

def orderDocument (fields types : List Json) : Document :=
  ⟨"orders.json", (Json.object (orderMembers fields types)).text⟩

def orderSource (fields types : List Json) : Source :=
  ⟨fun _ => true, fun _ => .ok (some (orderDocument fields types).content)⟩

theorem holdsObject_orderDocument {fields types : List Json}
    (hfields : ∀ field ∈ fields, Json.Readable 125 field)
    (htypes : ∀ name ∈ types, Json.Readable 125 name) :
    (orderDocument fields types).HoldsObject (orderMembers fields types) := by
  constructor
  · change structuredEnding <:+ "orders.json".toList
    decide
  · apply Json.read_text
    apply Json.Readable.object 126
    · simp only [orderMembers, List.map_cons, List.map_nil, List.pairwise_cons]
      decide
    · simp only [orderMembers, List.forall_mem_cons]
      exact ⟨.array 125 _ hfields, .array 125 _ htypes, by simp⟩

/-- A schema broken both ways is reported for its fields, and it still is when a
number is put in front of them. -/
theorem run_judges_orders :
    let fields := [Json.string "state"]
    let given := [Json.number (.integer 7), .string "state"]
    let types := [Json.string "order.v2"]
    (∃ report, run (orderSource fields types) orderConfig = .ok report ∧
      report.findings = [⟨.incompleteFields "orders.json" ["id"],
        "schema required fields missing: ['id']"⟩]) ∧
      SameFindings orderConfig (orderSource fields types) (orderSource given types)
        (orderDocument given types) := by
  intro fields given types
  have hfields : ∀ field ∈ fields, Json.Readable 125 field := by
    simp [fields, Json.Readable.string]
  have hgiven : ∀ field ∈ given, Json.Readable 125 field := by
    refine List.forall_mem_cons.mpr ⟨.natural 125 7 (by decide), ?_⟩
    simp [Json.Readable.string]
  have htypes : ∀ name ∈ types, Json.Readable 125 name := by
    simp [types, Json.Readable.string]
  have hedited : Edited orderConfig ["required"] fields given
      (orderSource fields types) (orderSource given types)
      (orderDocument fields types) (orderDocument given types)
      (orderMembers fields types) (orderMembers given types) :=
    ⟨rfl, rfl, holdsObject_orderDocument hfields htypes,
      holdsObject_orderDocument hgiven htypes, rfl, rfl⟩
  have hapart : TypesApart orderConfig := by
    have htokens : Json.Pointer.tokens? orderConfig.enumPointer.toList =
        some ["types"] := by decide
    intro tokens h
    rw [htokens, Option.some.injEq] at h
    rw [← h]
    decide
  refine ⟨⟨_, run_of_holdsObject rfl hedited.holdsBefore, by decide +kernel⟩, ?_⟩
  exact ((run_judges_declared_names orderConfig).2 hapart _ _ _ _ _ _ _ _ _ hedited).1
    (.inl rfl) (.padded rfl)

end Compliance.Schema
