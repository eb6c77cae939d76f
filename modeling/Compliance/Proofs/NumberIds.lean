import Compliance.Proofs.LedgerItems
import Compliance.Proofs.WrittenParts

/-!
Decisions that have a number for their id. The number has one spelling in the text of
the ledger, but a decision is called by its compact text. For integers of 64 bits that
is the same. A double has one compact text and many spellings, so zeros at the end of
a fraction, exponents and longer integers do not come out as they are written.
-/

namespace Compliance.Approvals

open Json Numeral

/-- How the number that is the id of a decision is spelled in the text of the ledger.
Of several lists of decisions, and of several ids, the last one counts. -/
def SpellsId (text : String) (index : Nat) (spelling : List Char)
    (number : JsonNumber) : Prop :=
  ∃ ledger list item : Written, ledger.IsText text ∧
    ledger.member? "decisions" = some list ∧ list.item? index = some item ∧
    item.member? "id" = some (.scalar spelling (.number number))

theorem exists_spellsId {text : String} {ledger : Json} {index : Nat}
    {number : JsonNumber} (hread : Json.read text = .ok ledger)
    (hid : HoldsId ledger index (.number number)) :
    ∃ spelling, SpellsId text index spelling number := by
  obtain ⟨items, item, hlist, hitem, hmember⟩ := hid
  obtain ⟨written, htext, rfl⟩ := exists_isText_of_read hread
  have hledger := within_of_isText htext
  rw [(value_parts hledger).1] at hlist
  obtain ⟨list, hlistWritten, hlistValue⟩ := Option.map_eq_some_iff.mp hlist
  have hwithin := within_member? hledger hlistWritten
  rw [(value_parts hwithin).2 items hlistValue] at hitem
  obtain ⟨itemWritten, hitemWritten, rfl⟩ := Option.map_eq_some_iff.mp hitem
  rw [(value_parts (within_item? hwithin hitemWritten)).1] at hmember
  obtain ⟨id, hidWritten, hidValue⟩ := Option.map_eq_some_iff.mp hmember
  obtain ⟨spelling, rfl⟩ := eq_scalar_of_value hidValue
  exact ⟨spelling, written, list, itemWritten, htext, hlistWritten, hitemWritten,
    hidWritten⟩

theorem spellsId_unique {text : String} {index : Nat} {spelling other : List Char}
    {number found : JsonNumber} (h : SpellsId text index spelling number)
    (hother : SpellsId text index other found) : other = spelling ∧ found = number := by
  obtain ⟨ledger, list, item, htext, hlist, hitem, hid⟩ := h
  obtain ⟨_, _, _, hagain, hsame, hsameItem, hsameId⟩ := hother
  cases htext.unique hagain
  cases hlist.symm.trans hsame
  cases hitem.symm.trans hsameItem
  cases hid.symm.trans hsameId
  exact ⟨rfl, rfl⟩

/-- The spelling of the number that is the id of a decision: the only one, all that
numbers are made of at its place in the text, and what the number is read from.
Integers have one spelling each. -/
structure IsSpelling (text : String) (index : Nat) (spelling : List Char)
    (number : JsonNumber) : Prop where
  spells : SpellsId text index spelling number
  unique : ∀ other found, SpellsId text index other found → other = spelling
  within : ∃ front behind, text.toList = front ++ spelling ++ behind ∧
    NumberEnds behind
  numeral : ∀ c ∈ spelling, isNumeral c = true
  read : Json.read (String.ofList spelling) = .ok (.number number)
  integer : ∀ value, number = .integer value ↔
    Fits value ∧ spelling = integerChars value

theorem spells_of_spellsId {text : String} {index : Nat} {spelling : List Char}
    {number : JsonNumber} (h : SpellsId text index spelling number) :
    IsSpelling text index spelling number ∧ Spells spelling number := by
  have hid := h
  obtain ⟨ledger, list, item, htext, hlist, hitem, hmember⟩ := hid
  obtain ⟨hwithin, hnumeral, hspells⟩ := spells_of_within (within_member? (within_item?
    (within_member? (within_of_isText htext) hlist) hitem) hmember)
  refine ⟨?_, hspells⟩
  exact {
    spells := h
    unique := fun _ _ hother => (spellsId_unique h hother).1
    within := hwithin
    numeral := hnumeral
    read := read_of_spells hspells
    integer := eq_integer_iff hspells }

/-- A decision whose id is a number is called by the compact text of that number, and
so is every finding on it. The number has one spelling in the ledger. An integer that
fits 64 bits is called as it is spelled; any other number only if the ledger spells it
as the compact text of the double that it is read as. -/
theorem number_id_is_spelling_iff {path text : String} {ledger : Json}
    {made : List Decision} (hread : Json.read text = .ok ledger)
    (hmade : decisions path ledger = .ok made) {index : Nat} {decision : Decision}
    (hdecision : made[index]? = some decision) {number : JsonNumber}
    (hid : HoldsId ledger index (.number number)) :
    ∃ spelling, IsSpelling text index spelling number ∧
      decision.id = String.ofList (numberChars number) ∧
      (decision.id = String.ofList spelling ↔
        ∀ value, number = .double value → spelling = doubleLayout.text value) ∧
      ∀ violation ∈ decision.violations, ∃ approval : Approval,
        violation.message =
          decision.id ++ ": " ++ approval.name ++ " approval missing" := by
  obtain ⟨spelling, hspelling⟩ := exists_spellsId hread hid
  obtain ⟨hspelled, hspells⟩ := spells_of_spellsId hspelling
  have hlabel : decision.id = String.ofList (numberChars number) := by
    rw [id_of_holdsId hmade hdecision hid]
    change (Json.number number).text = _
    rw [Json.text, Json.chars]
  refine ⟨spelling, hspelled, hlabel, ?_, fun _ => message_of_mem_violations⟩
  rw [hlabel, String.ofList_inj, numberChars_eq_iff hspells]

/-- A ledger in which the id of a decision is repeated. -/
def correctedLedger : String :=
  "\x7b\"decisions\": [\x7b\"id\": 7, \"id\": 18446744073709551615\x7d]\x7d"

/-- The last id counts, and the largest integer is called as it is spelled. -/
theorem largest_id_is_spelled :
    ∃ ledger made decision, Json.read correctedLedger = .ok ledger ∧
      decisions "ledger.json" ledger = .ok made ∧ made[0]? = some decision ∧
      ∃ spelling,
        SpellsId correctedLedger 0 spelling (.integer 18446744073709551615) ∧
        decision.id = String.ofList spelling := by
  have hread : Json.read correctedLedger = .ok (ofMembers [("decisions", .array
      [ofMembers [("id", .number (.integer 7)),
        ("id", .number (.integer 18446744073709551615))]])]) := rfl
  have hid := member?_ofMembers [("id", .number (.integer 7)),
    ("id", .number (.integer 18446744073709551615))] "id"
  obtain ⟨spelling, hspelled, _, hprinted, _⟩ :=
    number_id_is_spelling_iff hread (show decisions "ledger.json" _ = .ok _ from rfl)
      (show _[0]? = some _ from rfl) ⟨_, _, rfl, rfl, hid⟩
  exact ⟨_, _, _, hread, rfl, rfl, spelling, hspelled.spells, hprinted.mpr nofun⟩

/-- A ledger with a zero at the end of an id. -/
def versionedLedger : String :=
  "\x7b\"decisions\": [\x7b\"id\": 1.10, \"financial_impact\": true\x7d]\x7d"

/-- The double nearest to eleven tenths. -/
def elevenTenths : Binary64 := ⟨false, 4953959590107546, 1022⟩

theorem spellsId_versionedLedger :
    SpellsId versionedLedger 0 "1.10".toList (.double elevenTenths) := by
  have hnumber : (unsignedNumber false
      "1.10, \"financial_impact\": true\x7d]\x7d".toList).toOption =
        some (.double elevenTenths, ", \"financial_impact\": true\x7d]\x7d".toList) := by
    decide +kernel
  have hscalar := scalar_of_scalarRead
    (.natural (by decide) (toOption_eq_some_iff.mp hnumber))
  have hid : Stands (.value (.scalar "1.10".toList (.number (.double elevenTenths))))
      " 1.10, \"financial_impact\": true\x7d]\x7d".toList
      ", \"financial_impact\": true\x7d]\x7d".toList := .scalar hscalar.1 rfl
  have himpact : Stands (.value (.scalar "true".toList (.boolean true)))
      " true\x7d]\x7d".toList "\x7d]\x7d".toList := .scalar rfl rfl
  have hitem : Stands (.value (.object [("id", _), ("financial_impact", _)]))
      "\x7b\"id\": 1.10, \"financial_impact\": true\x7d]\x7d".toList "]\x7d".toList :=
    .object rfl rfl (.moreMembers (.member rfl rfl hid) rfl rfl
      (.lastMember (.member rfl rfl himpact) rfl))
  have hledger : Stands (.value (.object [("decisions", .array [_])]))
      versionedLedger.toList [] :=
    .object rfl rfl (.lastMember
      (.member rfl rfl (.array rfl (.lastItem hitem rfl))) rfl)
  exact ⟨_, _, _, ⟨[], hledger, rfl⟩, rfl, rfl, rfl⟩

/-- The zero is lost: the finding is on a decision that the ledger does not name. -/
theorem zero_of_id_is_lost :
    ∃ ledger decision, Json.read versionedLedger = .ok ledger ∧
      decisions "ledger.json" ledger = .ok [decision] ∧
      SpellsId versionedLedger 0 "1.10".toList (.double elevenTenths) ∧
      decision.id = "1.1" ∧ decision.id ≠ String.ofList "1.10".toList ∧
      decision.violations.map Violation.message = ["1.1: finance approval missing"] := by
  have hmade : ((Json.read versionedLedger).toOption.bind fun ledger =>
      (decisions "ledger.json" ledger).toOption) =
        some [⟨"1.1", true, false, false, false⟩] := by
    decide +kernel
  obtain ⟨ledger, hread, hdecisions⟩ := Option.bind_eq_some_iff.mp hmade
  exact ⟨ledger, _, toOption_eq_some_iff.mp hread,
    toOption_eq_some_iff.mp hdecisions, spellsId_versionedLedger, rfl, by decide, rfl⟩

end Compliance.Approvals
