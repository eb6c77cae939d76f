import Compliance.Document
import Compliance.Json.Pointer
import Mathlib.Data.List.Sort

/-!
Structured documents and the sets of names that they declare. A document can be
checked key by key exactly when its path has the ending of a structured document
and its content is a JSON object; the names it declares under a pointer are the
strings of the array found there.
-/

namespace Compliance

/-- The names are all those with a property, in strictly ascending order. -/
def Enumerates (names : List String) (property : String → Prop) : Prop :=
  names.Pairwise (· < ·) ∧ ∀ name, name ∈ names ↔ property name

theorem Enumerates.unique {names others : List String} {property : String → Prop}
    (h : Enumerates names property) (hothers : Enumerates others property) :
    names = others :=
  h.1.eq_of_mem_iff hothers.1 fun name => (h.2 name).trans (hothers.2 name).symm

theorem NameSet.enumerates (set : NameSet) : Enumerates set.names (· ∈ set) :=
  ⟨set.ascending, fun _ => NameSet.mem_def.symm⟩

theorem NameSet.eq_iff {first second : NameSet} :
    first = second ↔ ∀ name, name ∈ first ↔ name ∈ second := by
  constructor
  · intro h name
    rw [h]
  · intro h
    have hnames : first.names = second.names :=
      first.ascending.eq_of_mem_iff second.ascending h
    cases first
    cases second
    simpa using hnames

theorem NameSet.isEmpty_iff {set : NameSet} :
    set.isEmpty = true ↔ ∀ name, name ∉ set := by
  simp [isEmpty, mem_def, List.eq_nil_iff_forall_not_mem]

namespace Json

/-- A name stands as a string in the array that a pointer refers to. -/
def Declares (value : Json) (pointer name : String) : Prop :=
  ∃ items, value.pointer? pointer = some (array items) ∧ string name ∈ items

theorem mem_filterMap_string? {items : List Json} {name : String} :
    name ∈ items.filterMap string? ↔ string name ∈ items := by
  simp only [List.mem_filterMap]
  constructor
  · rintro ⟨item, hitem, hname⟩
    cases item with
    | string text =>
      have htext : text = name := by simpa [string?] using hname
      exact htext ▸ hitem
    | _ => simp [string?] at hname
  · intro h
    exact ⟨string name, h, rfl⟩

theorem mem_stringSet {value : Json} {pointer name : String} :
    name ∈ value.stringSet pointer ↔ value.Declares pointer name := by
  unfold stringSet Declares
  split
  · next items hitems =>
    rw [NameSet.mem_ofList, mem_filterMap_string?]
    simp [hitems]
  · next hother =>
    constructor
    · intro h
      cases h
    · rintro ⟨items, hitems, _⟩
      exact absurd hitems (hother items)

end Json

namespace Document

/-- A structured document whose content reads as an object with these members.
-/
def HoldsObject (document : Document) (members : List (String × Json)) : Prop :=
  structuredEnding <:+ document.path.toList ∧
    Json.read document.content = .ok (.object members)

/-- What keeps a document from being checked key by key: it is no structured
document, its content is not JSON, or the value in it is not an object. -/
def LacksObject (document : Document) : Prop :=
  ¬structuredEnding <:+ document.path.toList ∨
    (∃ error, Json.read document.content = .error error) ∨
    ∃ value, Json.read document.content = .ok value ∧
      ∀ members, value ≠ .object members

theorem kind_eq_structured_iff {document : Document} :
    document.kind = .structured ↔ structuredEnding <:+ document.path.toList := by
  simp [kind, DocumentKind.ofPath, List.isSuffixOf_iff_suffix]

theorem object_of_holdsObject {document : Document} {members : List (String × Json)}
    (h : document.HoldsObject members) :
    document.object = .ok (.object members) := by
  obtain ⟨hending, hread⟩ := h
  simp [object, kind_eq_structured_iff.mpr hending, json, hread, Except.mapError,
    Json.isObject]

/-- The reason that is given for the lack of an object: the first one that
applies, in the order of the constructors. -/
def ObjectDefect (document : Document) : MalformedReason → Prop
  | .notStructured => ¬structuredEnding <:+ document.path.toList
  | .notJson error =>
    structuredEnding <:+ document.path.toList ∧
      Json.read document.content = .error error
  | .notObject =>
    structuredEnding <:+ document.path.toList ∧
      ∃ value, Json.read document.content = .ok value ∧
        ∀ members, value ≠ .object members
  | _ => False

theorem object_of_defect {document : Document} {reason : MalformedReason}
    (h : document.ObjectDefect reason) :
    document.object = .error (.malformed document.path reason) := by
  cases reason with
  | notStructured =>
    have hkind : document.kind = .freeText := by
      cases hkind : document.kind with
      | freeText => rfl
      | structured => exact absurd (kind_eq_structured_iff.mp hkind) h
    simp [object, hkind]
  | notJson error =>
    obtain ⟨hending, hread⟩ := h
    simp [object, kind_eq_structured_iff.mpr hending, json, hread, Except.mapError]
  | notObject =>
    obtain ⟨hending, value, hread, hvalue⟩ := h
    have hobject : value.isObject = false := by
      cases value with
      | object members => exact absurd rfl (hvalue members)
      | _ => rfl
    simp [object, kind_eq_structured_iff.mpr hending, json, hread, Except.mapError,
      hobject]
  | _ => exact h.elim

theorem lacksObject_iff {document : Document} :
    document.LacksObject ↔ ∃ reason, document.ObjectDefect reason := by
  constructor
  · intro h
    by_cases hending : structuredEnding <:+ document.path.toList
    · rcases h with hnot | ⟨error, hread⟩ | hvalue
      · exact absurd hending hnot
      · exact ⟨.notJson error, hending, hread⟩
      · exact ⟨.notObject, hending, hvalue⟩
    · exact ⟨.notStructured, hending⟩
  · rintro ⟨reason, h⟩
    cases reason with
    | notStructured => exact .inl h
    | notJson error => exact .inr (.inl ⟨error, h.2⟩)
    | notObject => exact .inr (.inr h.2)
    | _ => exact h.elim

theorem object_of_lacksObject {document : Document} (h : document.LacksObject) :
    ∃ reason, document.object = .error (.malformed document.path reason) := by
  obtain ⟨reason, hdefect⟩ := lacksObject_iff.mp h
  exact ⟨reason, object_of_defect hdefect⟩

theorem lacksObject_or_holdsObject (document : Document) :
    document.LacksObject ∨ ∃ members, document.HoldsObject members := by
  by_cases hending : structuredEnding <:+ document.path.toList
  · cases hread : Json.read document.content with
    | error error => exact .inl (.inr (.inl ⟨error, hread⟩))
    | ok value =>
      cases value with
      | object members => exact .inr ⟨members, hending, hread⟩
      | _ => exact .inl (.inr (.inr ⟨_, hread, by simp⟩))
  · exact .inl (.inl hending)

theorem not_lacksObject_of_holdsObject {document : Document}
    {members : List (String × Json)}
    (h : document.HoldsObject members) : ¬document.LacksObject := by
  intro hlacks
  obtain ⟨reason, herror⟩ := object_of_lacksObject hlacks
  rw [object_of_holdsObject h] at herror
  cases herror

end Document

end Compliance
