import Compliance.Proofs.StructuredDocuments
import Compliance.Requirement
import Mathlib.Data.List.Infix

/-!
Requirements against sources. What a requirement has to answer is said here in
terms of what a source holds: a path that exists, an object with the names it
declares, a run of characters in a text. Evaluation gives that answer and no
other, for all kinds of requirements and whatever the source answers.
-/

namespace Compliance.Requirement

/-- A requirement on the content of a document, which has to be loaded. -/
def ReadsContent : Requirement → Prop
  | existence _ => False
  | _ => True

theorem evaluate_unreadable {requirement : Requirement} {source : Source}
    {error : GateError}
    (h : requirement.ReadsContent)
    (hload : source.load requirement.path = .error error) :
    requirement.evaluate source = .error error := by
  cases requirement with
  | existence path => exact h.elim
  | _ => simp [evaluate, hload]

theorem evaluate_absent {requirement : Requirement} {source : Source}
    (h : requirement.ReadsContent)
    (hload : source.load requirement.path = .ok none) :
    requirement.evaluate source = .ok [.missingArtifact requirement.path] := by
  cases requirement with
  | existence path => exact h.elim
  | _ => simp [evaluate, hload]

theorem evaluate_loaded {requirement : Requirement} {source : Source}
    {document : Document}
    (h : requirement.ReadsContent)
    (hload : source.load requirement.path = .ok (some document)) :
    requirement.evaluate source = requirement.evaluateDocument document := by
  cases requirement with
  | existence path => exact h.elim
  | _ => simp [evaluate, hload]

/-- An answer about the object in a document: malformed exactly if there is
none, and otherwise findings that are judged by the object. -/
def JudgesObject (document : Document) (answer : Except GateError (List Violation))
    (judged : List Violation → Json → Prop) : Prop :=
  ((∃ reason, answer = .error (.malformed document.path reason)) ↔
    document.LacksObject) ∧
    (¬document.LacksObject → ∃ members found,
      document.HoldsObject members ∧ answer = .ok found ∧
        judged found (.object members))

theorem judgesObject_map (document : Document) {check : Json → List Violation}
    {judged : List Violation → Json → Prop}
    (h : ∀ value, judged (check value) value) :
    JudgesObject document (document.object.map check) judged := by
  rcases document.lacksObject_or_holdsObject with hlacks | ⟨members, hholds⟩
  · obtain ⟨reason, herror⟩ := Document.object_of_lacksObject hlacks
    constructor
    · rw [herror]
      exact ⟨fun _ => hlacks, fun _ => ⟨reason, rfl⟩⟩
    · intro hnot
      exact absurd hlacks hnot
  · have hlacks := Document.not_lacksObject_of_holdsObject hholds
    have hanswer : document.object.map check = .ok (check (.object members)) := by
      rw [Document.object_of_holdsObject hholds]
      rfl
    constructor
    · rw [hanswer]
      constructor
      · rintro ⟨reason, herror⟩
        cases herror
      · intro hnot
        exact absurd hnot hlacks
    · intro _
      exact ⟨members, check (.object members), hholds, hanswer, h (.object members)⟩

/-- All expected names are declared under `/required`, or the one finding
enumerates those that are not. -/
def FieldVerdict (path : String) (expected : NameSet) (found : List Violation)
    (value : Json) : Prop :=
  (found = [] ↔ ∀ name ∈ expected, value.Declares "/required" name) ∧
    (found = [] ∨ ∃ missing, found = [.incompleteFields path missing] ∧
      Enumerates missing fun name => name ∈ expected ∧
        ¬value.Declares "/required" name)

theorem checkFieldCoverage_verdict (path : String) (expected : NameSet)
    (value : Json) :
    FieldVerdict path expected (checkFieldCoverage path value expected) value := by
  have hmissing (name : String) :
      name ∈ expected.difference (value.stringSet requiredPointer) ↔
        name ∈ expected ∧ ¬value.Declares "/required" name := by
    rw [NameSet.mem_difference, Json.mem_stringSet, requiredPointer]
  have hempty :
    (expected.difference (value.stringSet requiredPointer)).isEmpty = true ↔
      ∀ name ∈ expected, value.Declares "/required" name := by
    rw [NameSet.isEmpty_iff]
    simp only [hmissing, not_and, not_not]
  unfold FieldVerdict checkFieldCoverage
  by_cases h :
      (expected.difference (value.stringSet requiredPointer)).isEmpty = true
  · simp only [h, if_true, true_iff, true_or, and_true]
    exact hempty.mp h
  · have hnot := mt hempty.mpr h
    simp only [h, if_false, reduceCtorEq, false_iff, false_or, Bool.false_eq_true]
    refine ⟨hnot, _, rfl, NameSet.ascending _, ?_⟩
    intro name
    exact NameSet.mem_def.symm.trans (hmissing name)

/-- The verdict leaves no choice: what the check finds is all that fulfils it. -/
theorem fieldVerdict_iff {path : String} {expected : NameSet} {found : List Violation}
    {value : Json} :
    FieldVerdict path expected found value ↔
      found = checkFieldCoverage path value expected := by
  have hcheck := checkFieldCoverage_verdict path expected value
  constructor
  · rintro ⟨hpasses, rfl | ⟨missing, rfl, hmissing⟩⟩
    · exact (hcheck.1.mpr (hpasses.mp rfl)).symm
    · rcases hcheck.2 with hnone | ⟨others, hfound, hothers⟩
      · cases hpasses.mpr (hcheck.1.mp hnone)
      · rw [hfound, hmissing.unique hothers]
  · rintro rfl
    exact hcheck

instance (path : String) (expected : NameSet) (found : List Violation) (value : Json) :
    Decidable (FieldVerdict path expected found value) :=
  decidable_of_iff _ fieldVerdict_iff.symm

example : FieldVerdict "order.json" (.ofList ["total", "id", "paid"])
    [.incompleteFields "order.json" ["paid", "total"]]
    (.object [("required", .array [.string "id", .null, .string "date"])]) := by
  decide

/-- The declared names are the expected ones, or the one finding enumerates both
sides in full. -/
def EnumVerdict (path pointer field : String) (expected : NameSet)
    (found : List Violation)
    (value : Json) : Prop :=
  (found = [] ↔ ∀ name, value.Declares pointer name ↔ name ∈ expected) ∧
    (found = [] ∨
      ∃ wanted actual, found = [.enumMismatch path field wanted actual] ∧
      Enumerates wanted (· ∈ expected) ∧ Enumerates actual (value.Declares pointer))

theorem checkEnumEquality_verdict (path pointer field : String) (expected : NameSet)
    (value : Json) :
    EnumVerdict path pointer field expected
      (checkEnumEquality path pointer field value expected)
      value := by
  have hequal : value.stringSet pointer = expected ↔
      ∀ name, value.Declares pointer name ↔ name ∈ expected := by
    rw [NameSet.eq_iff]
    simp only [Json.mem_stringSet]
  unfold EnumVerdict checkEnumEquality
  by_cases h : value.stringSet pointer = expected
  · simp only [h, if_true, true_iff, true_or, and_true]
    exact hequal.mp h
  · have hnot := mt hequal.mpr h
    simp only [h, if_false, reduceCtorEq, false_iff, false_or]
    refine ⟨hnot, _, _, rfl, expected.enumerates, NameSet.ascending _, ?_⟩
    intro name
    exact NameSet.mem_def.symm.trans Json.mem_stringSet

theorem enumVerdict_iff {path pointer field : String} {expected : NameSet}
    {found : List Violation} {value : Json} :
    EnumVerdict path pointer field expected found value ↔
      found = checkEnumEquality path pointer field value expected := by
  have hcheck := checkEnumEquality_verdict path pointer field expected value
  constructor
  · rintro ⟨hpasses, rfl | ⟨wanted, actual, rfl, hwanted, hactual⟩⟩
    · exact (hcheck.1.mpr (hpasses.mp rfl)).symm
    · rcases hcheck.2 with hnone | ⟨expects, declares, hfound, hexpects, hdeclares⟩
      · cases hpasses.mpr (hcheck.1.mp hnone)
      · rw [hfound, hwanted.unique hexpects, hactual.unique hdeclares]
  · rintro rfl
    exact hcheck

instance (path pointer field : String) (expected : NameSet) (found : List Violation)
    (value : Json) : Decidable (EnumVerdict path pointer field expected found value) :=
  decidable_of_iff _ enumVerdict_iff.symm

example : EnumVerdict "order.json" "/type/enum" "type" (.ofList ["refund", "order"])
    [.enumMismatch "order.json" "type" ["order", "refund"] ["order"]]
    (.object [("type", .object [("enum", .array [.string "order", .string "order"])])]) := by
  decide

/-- What a requirement on content has to answer for a document that is there. -/
def Verdict (document : Document) (answer : Except GateError (List Violation)) :
    Requirement → Prop
  | existence _ => answer = .ok []
  | fieldCoverage path expected =>
    JudgesObject document answer (FieldVerdict path expected)
  | enumEquality path pointer field expected =>
    JudgesObject document answer (EnumVerdict path pointer field expected)
  | snippetPresence path snippets =>
    answer = .ok ((snippets.filter fun snippet =>
      ¬snippet.toList <:+: document.content.toList).map (.missingSnippet path))
  | snippetAbsence path marker label =>
    answer = .ok (if marker.toList <:+: document.content.toList
      then [.forbiddenMarkerPresent path marker label] else [])

/-- Evaluation against a loaded document gives the verdict on it. -/
theorem evaluateDocument_verdict (requirement : Requirement) {document : Document}
    (hpath : document.path = requirement.path) :
    requirement.Verdict document (requirement.evaluateDocument document) := by
  cases requirement with
  | existence path => rfl
  | fieldCoverage path expected =>
    unfold Verdict evaluateDocument
    rw [hpath]
    exact judgesObject_map document (checkFieldCoverage_verdict path expected)
  | enumEquality path pointer field expected =>
    unfold Verdict evaluateDocument
    rw [hpath]
    exact judgesObject_map document
      (checkEnumEquality_verdict path pointer field expected)
  | snippetPresence path snippets =>
    have hsame : document.path = path := hpath
    simp only [Verdict, evaluateDocument, checkSnippetsPresent, hsame]
    congr 2
    apply List.filter_congr
    intro snippet _
    simp [← Document.contains_iff]
  | snippetAbsence path marker label =>
    have hsame : document.path = path := hpath
    simp [Verdict, evaluateDocument, checkMarkerAbsent, hsame,
      ← Document.contains_iff]

/-- Every requirement gets the answer that its source calls for. Asking for a
path never loads anything; any other requirement hands an error of loading on,
finds an absent document missing, and gives its verdict on one that is there. -/
theorem evaluate_sound_complete (source : Source) :
    (∀ path,
      (existence path).evaluate source =
          .ok (if source.has path = true then [] else [.missingArtifact path]) ∧
        ∀ read, (existence path).evaluate ⟨source.has, read⟩ =
          (existence path).evaluate source) ∧
      ∀ requirement : Requirement, requirement.ReadsContent →
        match source.load requirement.path with
        | .error error => requirement.evaluate source = .error error
        | .ok none =>
          requirement.evaluate source = .ok [.missingArtifact requirement.path]
        | .ok (some document) =>
          document.path = requirement.path ∧
            requirement.Verdict document (requirement.evaluate source) := by
  constructor
  · intro path
    exact ⟨rfl, fun _ => rfl⟩
  · intro requirement hreads
    split
    · next hload => exact evaluate_unreadable hreads hload
    · next hload => exact evaluate_absent hreads hload
    · next document hload =>
      have hpath : document.path = requirement.path := Source.path_of_load hload
      rw [evaluate_loaded hreads hload]
      exact ⟨hpath, requirement.evaluateDocument_verdict hpath⟩

/-- One document is asked for its fields, for a type, and for a marker. -/
example :
    let source : Source :=
      ⟨(· == "order.json"), fun _ => .ok (some "\x7b\"required\": [\"id\"], \"type\": []\x7d")⟩
    [fieldCoverage "order.json" (.ofList ["total", "id"]),
      enumEquality "order.json" "/type" "type" (.ofList ["order"]),
      snippetAbsence "order.json" "type" "draft", existence "orders"].map
        (fun requirement => (requirement.evaluate source).toOption) =
      [some [.incompleteFields "order.json" ["total"]],
        some [.enumMismatch "order.json" "type" ["order"] []],
        some [.forbiddenMarkerPresent "order.json" "type" "draft"],
        some [.missingArtifact "orders"]] := by
  decide +kernel

end Compliance.Requirement
