import Compliance.Gate.Approvals
import Compliance.Proofs.SingleLines

/-!
The items of a ledger and its decisions. A ledger that is accepted has one decision for
each item, in the same order, and what a finding on a decision is about is what the
item has for its id. Without an id a decision is called unknown.
-/

namespace Compliance.Approvals

/-- What a decision is called by what its item has for an id. -/
inductive Calls : Option Json → String → Prop
  | absent : Calls none "unknown"
  | null : Calls (some .null) "unknown"
  | name (text : String) : Calls (some (.string text)) text
  | yes : Calls (some (.boolean true)) "True"
  | no : Calls (some (.boolean false)) "False"
  | number (value : JsonNumber) : Calls (some (.number value)) (Json.number value).text
  | array (items : List Json) : Calls (some (.array items)) (Json.array items).text
  | object (members : List (String × Json)) :
    Calls (some (.object members)) (Json.object members).text

theorem label_eq_iff {id : Option Json} {name : String} :
    label id = name ↔ Calls id name := by
  constructor
  · rintro rfl
    cases id with
    | none => exact .absent
    | some value =>
      cases value with
      | null => exact .null
      | boolean value =>
        cases value
        · exact .no
        · exact .yes
      | number value => exact .number value
      | string text => exact .name text
      | array items => exact .array items
      | object members => exact .object members
  · intro h
    cases h <;> rfl

/-- Only a decision without an id is called unknown, or one that has that name. -/
theorem label_eq_unknown_iff {id : Option Json} :
    label id = unknownId ↔ id = none ∨ id = some .null ∨ id = some (.string unknownId) := by
  -- A compact text begins with a bracket or is made of numerals.
  have hnumber (value : JsonNumber) : (Json.number value).text ≠ unknownId := by
    intro hsame
    have hletter := Json.not_mem_numberChars (show Json.isNumeral 'u' = false by decide) value
    rw [Json.text, Json.chars, ← String.toList_inj, String.toList_ofList] at hsame
    rw [hsame] at hletter
    exact hletter (by decide)
  have hhead {value : Json} {c : Char} {rest : List Char} (hchars : value.chars = c :: rest)
      (hc : c ≠ 'u') : value.text ≠ unknownId := by
    intro hsame
    rw [Json.text, hchars, ← String.toList_inj, String.toList_ofList] at hsame
    cases hsame
    exact hc rfl
  constructor
  · intro h
    cases id with
    | none => exact .inl rfl
    | some value =>
      cases value with
      | null => exact .inr (.inl rfl)
      | boolean value => cases value <;> exact absurd h (by decide)
      | number value => exact absurd h (hnumber value)
      | string text =>
        cases h
        exact .inr (.inr rfl)
      | array items =>
        cases items with
        | nil => exact absurd h (hhead rfl (by decide))
        | cons item rest => exact absurd h (hhead rfl (by decide))
      | object members =>
        cases members with
        | nil => exact absurd h (hhead rfl (by decide))
        | cons member rest => exact absurd h (hhead rfl (by decide))
  · rintro (rfl | rfl | rfl) <;> rfl

/-- What the item of a decision has for its id, at some position of the ledger. -/
def HoldsId (ledger : Json) (index : Nat) (id : Json) : Prop :=
  ∃ items item, ledger.member? "decisions" = some (.array items) ∧
    items[index]? = some item ∧ item.member? "id" = some id

theorem item_of_decisionsFrom {path : String} {start index : Nat} {items : List Json}
    {made : List Decision} {decision : Decision}
    (h : decisionsFrom path start items = .ok made)
    (hdecision : made[index]? = some decision) :
    ∃ item, items[index]? = some item ∧ Decision.ofJson? item = some decision := by
  induction items generalizing start index made with
  | nil =>
    cases h
    cases hdecision
  | cons item rest ih =>
    unfold decisionsFrom at h
    split at h
    · cases h
    · next first hfirst =>
      obtain ⟨others, hothers, rfl⟩ := map_eq_ok_iff.mp h
      cases index with
      | zero =>
        cases hdecision
        exact ⟨item, rfl, hfirst⟩
      | succ index => exact ih hothers hdecision

/-- Every decision stands for an item of the list, whose id it is called by. -/
theorem calls_of_decisions {path : String} {ledger : Json} {index : Nat}
    {made : List Decision} {decision : Decision} (h : decisions path ledger = .ok made)
    (hdecision : made[index]? = some decision) :
    ∃ items item, ledger.member? "decisions" = some (.array items) ∧
      items[index]? = some item ∧ Calls (item.member? "id") decision.id := by
  unfold decisions at h
  split at h
  · cases h
    cases hdecision
  · next items hlist =>
    obtain ⟨item, hitem, hmade⟩ := item_of_decisionsFrom h hdecision
    refine ⟨items, item, hlist, hitem, ?_⟩
    unfold Decision.ofJson? at hmade
    split at hmade
    · cases hmade
      exact label_eq_iff.mp rfl
    · cases hmade
  · cases h

/-- A decision is called by what its item has for its id. -/
theorem id_of_holdsId {path : String} {ledger id : Json} {index : Nat}
    {made : List Decision} {decision : Decision} (h : decisions path ledger = .ok made)
    (hdecision : made[index]? = some decision) (hid : HoldsId ledger index id) :
    decision.id = label (some id) := by
  obtain ⟨items, item, hlist, hitem, hmember⟩ := hid
  obtain ⟨others, found, hothers, hfound, hcalls⟩ := calls_of_decisions h hdecision
  cases hlist.symm.trans hothers
  cases hitem.symm.trans hfound
  rw [hmember] at hcalls
  exact (label_eq_iff.mpr hcalls).symm

/-- Every finding on a decision begins with what the decision is called. -/
theorem message_of_mem_violations {decision : Decision} {violation : Violation}
    (h : violation ∈ decision.violations) :
    ∃ approval : Approval,
      violation.message = decision.id ++ ": " ++ approval.name ++ " approval missing" := by
  rcases List.mem_append.mp h with h | h
  · split at h
    · rw [List.mem_singleton.mp h]
      exact ⟨.finance, rfl⟩
    · cases h
  · split at h
    · rw [List.mem_singleton.mp h]
      exact ⟨.controls, rfl⟩
    · cases h

end Compliance.Approvals
