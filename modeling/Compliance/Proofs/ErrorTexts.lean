import Compliance.Proofs.LedgerFindings
import Compliance.Proofs.RefusedConfigs

/-!
What the texts of errors tell. The tag of an error gives its sort. The text for a broken
rule of the configuration names what it is about, and different rules have different
texts: each begins and ends in its own way, whatever names stand in between. The text for
a malformed document belongs to one reason alone, down to the place in the document.
-/

namespace Compliance

/-- Two errors of one sort. -/
inductive GateError.SameSort : GateError → GateError → Prop
  | malformed (path other : String) (reason another : MalformedReason) :
    SameSort (.malformed path reason) (.malformed other another)
  | io (path other : String) (cause another : IoCause) :
    SameSort (.io path cause) (.io other another)
  | config (fault other : Config.Fault) : SameSort (.config fault) (.config other)
  | unknownGate (name other : String) : SameSort (.unknownGate name) (.unknownGate other)

/-- Errors of different sorts have different tags. -/
theorem GateError.kind_eq_iff {error other : GateError} :
    error.kind = other.kind ↔ error.SameSort other := by
  constructor
  · intro h
    cases error <;> cases other <;> first | constructor | simp [kind] at h
  · intro h
    cases h <;> rfl

namespace Config

/-! ## Broken rules -/

/-- The rules for the values of a configuration. -/
inductive Rule where
  | requiredPaths
  | ledger
  | requiredFields
  | eventTypes
  | enumPointer
  | familyNames
  | documents
  | snippets
  deriving DecidableEq

namespace Rule

/-- How every text for the rule begins. -/
def opening : Rule → String
  | requiredPaths => "freeze.required_paths must not be empty"
  | ledger => "approvals.ledger must be set"
  | requiredFields => "schema.required_fields must not be empty"
  | eventTypes => "schema.event_types must not be empty"
  | enumPointer => "schema.enum_pointer must be a JSON pointer, got '"
  | familyNames => "duplicate evidence family '"
  | documents => "evidence family '"
  | snippets => "evidence family '"

/-- How every text for the rule ends. -/
def ending : Rule → String
  | enumPointer => "'"
  | familyNames => "'"
  | documents => "' has no documents"
  | snippets => " has no snippets"
  | _ => ""

/-- No text begins and ends in the ways of two rules. -/
theorem eq_of_frames {rule other : Rule} {text : List Char}
    (hopening : rule.opening.toList <+: text) (hother : other.opening.toList <+: text)
    (hending : rule.ending.toList <:+ text) (hanother : other.ending.toList <:+ text) :
    rule = other := by
  have hopenings := List.prefix_or_prefix_of_prefix hopening hother
  have hendings := List.suffix_or_suffix_of_suffix hending hanother
  clear hopening hother hending hanother
  revert hopenings hendings
  cases rule <;> cases other <;> decide

end Rule

namespace Fault

/-- The rule that is broken, if it is one. -/
def rule? : Fault → Option Rule
  | noRequiredPaths => some .requiredPaths
  | noLedger => some .ledger
  | noRequiredFields => some .requiredFields
  | noEventTypes => some .eventTypes
  | notPointer _ => some .enumPointer
  | repeatedFamily _ => some .familyNames
  | noDocuments _ => some .documents
  | noSnippets _ _ => some .snippets
  | _ => none

/-- What stands between the beginning and the end of the text for a broken rule. -/
def between : Fault → String
  | notPointer text => text
  | repeatedFamily family => family
  | noDocuments family => family
  | noSnippets family path => family ++ "': " ++ path
  | _ => ""

/-- What a fault is about: a key of the configuration, and the values that break the
rule. -/
def subjects : Fault → List String
  | noRequiredPaths => ["freeze.required_paths"]
  | noLedger => ["approvals.ledger"]
  | noRequiredFields => ["schema.required_fields"]
  | noEventTypes => ["schema.event_types"]
  | notPointer text => ["schema.enum_pointer", text]
  | repeatedFamily family => [family]
  | noDocuments family => [family]
  | noSnippets family path => [family, path]
  | _ => []

variable {fault other : Fault} {rule : Rule}

theorem message_eq (h : fault.rule? = some rule) :
    fault.message = rule.opening ++ fault.between ++ rule.ending := by
  cases fault with
  | unreadable => cases h
  | shape document shape => cases h
  | stated reason => cases h
  | noSnippets family path =>
    cases h
    simp only [Rule.opening, between, Rule.ending, ← String.append_assoc]
    rfl
  | notPointer text | repeatedFamily family | noDocuments family =>
    cases h
    rfl
  | noRequiredPaths | noLedger | noRequiredFields | noEventTypes =>
    cases h
    simp only [between, Rule.ending, String.append_empty]
    rfl

theorem frame_of_rule? (h : fault.rule? = some rule) :
    rule.opening.toList <+: fault.message.toList ∧
      rule.ending.toList <:+ fault.message.toList := by
  rw [message_eq h, String.toList_append, String.toList_append]
  exact ⟨(List.prefix_append _ _).trans (List.prefix_append _ _), List.suffix_append _ _⟩

/-- Texts for broken rules are the same for faults of one rule with the same names in
them, and for no others. -/
theorem message_eq_iff (hrule : fault.rule? = some rule)
    (hother : other.rule?.isSome = true) :
    fault.message = other.message ↔
      other.rule? = some rule ∧ fault.between = other.between := by
  constructor
  · intro h
    obtain ⟨found, hfound⟩ := Option.isSome_iff_exists.mp hother
    obtain ⟨hopening, hending⟩ := frame_of_rule? hrule
    obtain ⟨hanother, hend⟩ := frame_of_rule? hfound
    rw [← h] at hanother hend
    obtain rfl := Rule.eq_of_frames hopening hanother hending hend
    rw [message_eq hrule, message_eq hfound] at h
    exact ⟨hfound, by simpa using h⟩
  · rintro ⟨hsame, hbetween⟩
    rw [message_eq hrule, message_eq hsame, hbetween]

/-- The text for a broken rule is about one fault alone, but for where the name of a
family ends and a path begins. -/
theorem eq_of_message_eq (hrule : fault.rule? = some rule) (hsnippets : rule ≠ .snippets)
    (hother : other.rule?.isSome = true) (h : fault.message = other.message) :
    fault = other := by
  obtain ⟨hsame, hbetween⟩ := (message_eq_iff hrule hother).mp h
  cases fault with
  | noSnippets family path =>
    cases hrule
    exact absurd rfl hsnippets
  | _ => cases hrule <;> cases other <;> cases hsame <;> simp_all [between]

example : (noSnippets "a" "b': c").message = (noSnippets "a': b" "c").message := by decide

/-- The text for a broken rule names what the fault is about. -/
theorem subjects_infix {subject : String} (hrule : fault.rule? = some rule)
    (h : subject ∈ fault.subjects) : subject.toList <:+: fault.message.toList := by
  have hin (part : String) (hpart : part.toList <:+: rule.opening.toList ∨
      part.toList <:+: fault.between.toList) : part.toList <:+: fault.message.toList := by
    rw [message_eq hrule, String.toList_append, String.toList_append]
    rcases hpart with hpart | hpart
    · exact (hpart.trans (List.prefix_append _ _).isInfix).trans
        (List.prefix_append _ _).isInfix
    · exact hpart.trans (List.infix_append _ _ _)
  apply hin
  cases fault with
  | unreadable => cases h
  | shape document shape => cases h
  | stated reason => cases h
  | noRequiredPaths | noLedger | noRequiredFields | noEventTypes =>
    cases hrule
    rw [List.mem_singleton.mp h]
    exact .inl (by decide)
  | repeatedFamily family | noDocuments family =>
    rw [List.mem_singleton.mp h]
    exact .inr List.infix_rfl
  | notPointer text =>
    cases hrule
    rcases List.mem_cons.mp h with rfl | h
    · exact .inl (by decide)
    · rw [List.mem_singleton.mp h]
      exact .inr List.infix_rfl
  | noSnippets family path =>
    rw [between, String.toList_append, String.toList_append]
    rcases List.mem_cons.mp h with rfl | h
    · exact .inr ((List.prefix_append _ _).trans (List.prefix_append _ _)).isInfix
    · rw [List.mem_singleton.mp h]
      exact .inr (List.suffix_append _ _).isInfix

end Fault

theorem FirstBroken.mem {rules : List (Prop × Fault)} {fault : Fault}
    (h : FirstBroken rules fault) : fault ∈ rules.map Prod.snd := by
  induction h with
  | here hrule => exact List.mem_cons_self
  | later hrule hrest ih => exact List.mem_cons_of_mem _ ih

theorem rule?_of_validate {config : Config} {fault : Fault}
    (h : config.validate = .error fault) : ∃ rule, fault.rule? = some rule := by
  rcases validate_eq_error_iff.mp h with hbroken | ⟨_, index, family, _, hfault, _⟩
  · have hmember := hbroken.mem
    simp only [partRules, List.map_cons, List.map_nil, List.mem_cons, List.not_mem_nil,
      or_false] at hmember
    rcases hmember with rfl | rfl | rfl | rfl | rfl <;> exact ⟨_, rfl⟩
  · cases hfault <;> exact ⟨_, rfl⟩

/-- A configuration is refused with a text that names what its first fault is about, and
that other refused configurations have in common with it only if they break the same rule
with the same names. -/
theorem refusal_tells_fault {config : Config} {fault : Fault}
    (h : config.validate = .error fault) :
    config.FirstFault fault ∧
      (∀ subject ∈ fault.subjects,
        subject.toList <:+: (GateError.config fault).message.toList) ∧
      ∀ (other : Config) (found : Fault), other.validate = .error found →
        (fault.message = found.message ↔
          found.rule? = fault.rule? ∧ fault.between = found.between) := by
  obtain ⟨rule, hrule⟩ := rule?_of_validate h
  refine ⟨validate_eq_error_iff.mp h, ?_, ?_⟩
  · intro subject hsubject
    have htext : (GateError.config fault).message =
        "Configuration error: " ++ fault.message := rfl
    rw [htext, String.toList_append]
    exact (Fault.subjects_infix hrule hsubject).trans (List.suffix_append _ _).isInfix
  · intro other found hfound
    obtain ⟨another, hanother⟩ := rule?_of_validate hfound
    rw [hrule]
    exact Fault.message_eq_iff hrule (Option.isSome_iff_exists.mpr ⟨another, hanother⟩)

end Config

/-! ## Malformed documents -/

/-- Runs of digits at the ends of two texts begin behind the same character. -/
theorem eq_of_digits_behind {front other digits more : List Char} {c : Char}
    (hc : c.isDigit = false) (hdigits : ∀ d ∈ digits, d.isDigit = true)
    (hmore : ∀ d ∈ more, d.isDigit = true)
    (h : front ++ c :: digits = other ++ c :: more) : front = other ∧ digits = more := by
  have hnot {run : List Char} (hrun : ∀ d ∈ run, d.isDigit = true) {before behind : List Char}
      (hsplit : run = before ++ c :: behind) : False := by
    have hdigit := hrun c (by simp [hsplit])
    exact Bool.false_ne_true (hc.symm.trans hdigit)
  rcases List.append_eq_append_iff.mp h with ⟨rest, rfl, hrest⟩ | ⟨rest, rfl, hrest⟩
  · cases rest with
    | nil => simpa using hrest
    | cons d rest =>
      obtain ⟨rfl, hsplit⟩ := List.cons.inj hrest
      exact (hnot hdigits hsplit).elim
  · cases rest with
    | nil => simpa [eq_comm] using hrest
    | cons d rest =>
      obtain ⟨rfl, hsplit⟩ := List.cons.inj hrest
      exact (hnot hmore hsplit).elim

theorem isDigit_of_mem_toString {value : Nat} {c : Char} (h : c ∈ (toString value).toList) :
    c.isDigit = true := by
  rw [Nat.toString_eq_repr, Nat.toList_repr] at h
  exact Nat.isDigit_of_mem_toDigits (by decide) (by decide) h

theorem toList_toString_inj {value other : Nat}
    (h : (toString value).toList = (toString other).toList) : value = other := by
  rw [Nat.toString_eq_repr, Nat.toString_eq_repr, Nat.toList_repr, Nat.toList_repr] at h
  have hread := congrArg (Nat.ofDigitChars 10 · 0) h
  simpa [Nat.ofDigitChars_toDigits] using hread

namespace Json

def Cause.all : List Cause :=
  [eofValue, eofObject, eofList, eofString, expectedValue, expectedIdent, expectedColon,
    expectedListSeparator, expectedMemberSeparator, keyNotString, trailingComma,
    trailingCharacters, invalidNumber, numberOutOfRange, invalidEscape,
    unfinishedSurrogatePair, loneSurrogate, controlCharacter, recursionLimit]

theorem Cause.message_injective : Function.Injective Cause.message := by
  have hall (cause : Cause) : cause ∈ all := by cases cause <;> decide
  have hdistinct : (all.map message).Nodup := by decide +kernel
  intro cause other h
  exact List.inj_on_of_nodup_map hdistinct (hall cause) (hall other) h

/-- The text for a text that is no JSON tells what was met and where. -/
theorem ReadError.message_injective : Function.Injective ReadError.message := by
  -- The numbers are taken off from the end, where they are runs of digits.
  have hsplit (error : ReadError) : error.message.toList =
      (error.cause.message.toList ++ " at line".toList ++
          ' ' :: (toString error.position.line).toList ++ " column".toList) ++
        ' ' :: (toString error.position.column).toList := by
    simp [message]
  rintro ⟨cause, line, column⟩ ⟨other, otherLine, otherColumn⟩ h
  rw [← String.toList_inj, hsplit, hsplit] at h
  obtain ⟨hfront, hcolumn⟩ := eq_of_digits_behind (by decide)
    (fun _ => isDigit_of_mem_toString) (fun _ => isDigit_of_mem_toString) h
  obtain ⟨hcause, hline⟩ := eq_of_digits_behind (by decide)
    (fun _ => isDigit_of_mem_toString) (fun _ => isDigit_of_mem_toString)
    (List.append_cancel_right hfront)
  obtain rfl := Cause.message_injective (String.toList_inj.mp (List.append_cancel_right hcause))
  obtain rfl := toList_toString_inj hline
  obtain rfl := toList_toString_inj hcolumn
  rfl

end Json

/-- A text ends in a digit. -/
def endsInDigit (text : String) : Bool := text.toList.getLast?.any Char.isDigit

theorem Json.ReadError.endsInDigit_message (error : ReadError) :
    endsInDigit error.message = true := by
  have hne : (toString error.position.column).toList ≠ [] := by
    rw [Nat.toString_eq_repr, Nat.toList_repr]
    exact Nat.toDigits_ne_nil
  have hlast := isDigit_of_mem_toString (List.getLast_mem hne)
  rw [endsInDigit, message, String.toList_append, List.getLast?_append_of_ne_nil _ hne,
    List.getLast?_eq_some_getLast hne]
  exact hlast

namespace MalformedReason

theorem message_decisionNotObject (index : Nat) :
    "decision #".toList <+: (decisionNotObject index).message.toList ∧
      endsInDigit (decisionNotObject index).message = false := by
  have htext : (decisionNotObject index).message =
      "decision #" ++ toString index ++ " is not an object" := rfl
  rw [endsInDigit, htext, String.toList_append, String.toList_append,
    List.getLast?_append_of_ne_nil _ (by decide)]
  exact ⟨(List.prefix_append _ _).trans (List.prefix_append _ _), by decide⟩

/-- Each reason has a text of its own. -/
theorem eq_of_message_eq {reason other : MalformedReason}
    (hreason : ∀ text, reason ≠ .stated text) (hother : ∀ text, other ≠ .stated text)
    (h : reason.message = other.message) : reason = other := by
  -- A place in a text that is no JSON stands at the end, a decision at the beginning.
  have hplace {error : Json.ReadError} {text : String}
      (htext : (notJson error).message = text) : endsInDigit text = true := by
    rw [← htext]
    exact error.endsInDigit_message
  have hnumbered {index : Nat} {text : String}
      (htext : (decisionNotObject index).message = text) :
      "decision #".toList <+: text.toList ∧ endsInDigit text = false := by
    rw [← htext]
    exact message_decisionNotObject index
  cases reason with
  | stated text => exact absurd rfl (hreason text)
  | notJson error =>
    cases other with
    | stated text => exact absurd rfl (hother text)
    | notJson found => exact congrArg notJson (Json.ReadError.message_injective h)
    | decisionNotObject index => cases (hplace h).symm.trans (hnumbered rfl).2
    | _ => exact absurd (hplace h) (by decide)
  | decisionNotObject index =>
    cases other with
    | stated text => exact absurd rfl (hother text)
    | notJson error => cases (hplace h.symm).symm.trans (hnumbered rfl).2
    | decisionNotObject found =>
      have htexts : "decision #" ++ toString index ++ " is not an object" =
        "decision #" ++ toString found ++ " is not an object" := h
      have hindex : toString index = toString found := by simpa using htexts
      rw [toList_toString_inj (congrArg String.toList hindex)]
    | _ => exact absurd (hnumbered h).1 (by decide)
  | _ =>
    cases other with
    | stated text => exact absurd rfl (hother text)
    | notJson error => exact absurd (hplace h.symm) (by decide)
    | decisionNotObject index => exact absurd (hnumbered h.symm).1 (by decide)
    | _ => first | rfl | exact absurd h (by decide)

end MalformedReason

namespace Approvals

theorem Defect.not_stated {document : Document} {reason : MalformedReason}
    (h : Defect document reason) (text : String) : reason ≠ .stated text := by
  rintro rfl
  exact h.elim

/-- A malformed ledger is refused with a text that names its path, and the position of the
decision that is no object; other ledgers have the words behind the path in common with it
only if they are malformed for the same reason. -/
theorem refusal_tells_defect {document : Document} {reason : MalformedReason}
    (h : decisionsOf document = .error (.malformed document.path reason)) :
    Defect document reason ∧
      (GateError.malformed document.path reason).message =
        "malformed " ++ document.path ++ ": " ++ reason.message ∧
      (∀ index, reason = .decisionNotObject index →
        ("#" ++ toString index).toList <:+: reason.message.toList) ∧
      ∀ (other : Document) (found : MalformedReason),
        decisionsOf other = .error (.malformed other.path found) →
          (found.message = reason.message ↔ found = reason) := by
  have hdefect := (decisionsOf_malformed_iff document reason).mp h
  refine ⟨hdefect, rfl, ?_, ?_⟩
  · rintro index rfl
    have htext : (MalformedReason.decisionNotObject index).message =
        "decision " ++ ("#" ++ toString index) ++ " is not an object" := by
      rw [← String.append_assoc]
      rfl
    rw [htext]
    simp only [String.toList_append]
    exact List.infix_append _ _ _
  · intro other found hfound
    have hother := (decisionsOf_malformed_iff other found).mp hfound
    constructor
    · exact MalformedReason.eq_of_message_eq hother.not_stated hdefect.not_stated
    · rintro rfl
      rfl

end Approvals

end Compliance
