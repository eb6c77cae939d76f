import Compliance.Proofs.LedgerItems
import Compliance.Proofs.NumberSpellings
import Compliance.Proofs.SingleLines
import Compliance.Proofs.TextLines

/-!
Decisions that have an array or an object for their id. What the reader gives is never
nested deeper than the reader goes, its integers fit 64 bits and the keys of its objects
ascend; so without doubles in it, it is read back from its compact text. A decision
with such an id is called by that text, and two of them alike only if their ids are.
-/

namespace Compliance.Json

/-- What a reader gives that goes `depth` containers deep. -/
inductive Bounded : Nat → Json → Prop
  | null (depth : Nat) : Bounded depth .null
  | boolean (depth : Nat) (value : Bool) : Bounded depth (.boolean value)
  | integer (depth : Nat) {value : Int} (h : Fits value) :
    Bounded depth (.number (.integer value))
  | double (depth : Nat) (value : Numeral.Binary64) :
    Bounded depth (.number (.double value))
  | string (depth : Nat) (text : String) : Bounded depth (.string text)
  | array {depth : Nat} {items : List Json} (hitems : ∀ item ∈ items, Bounded depth item) :
    Bounded (depth + 1) (.array items)
  | object {depth : Nat} {members : List (String × Json)}
    (hascending : (members.map Prod.fst).Pairwise (· < ·))
    (hmembers : ∀ member ∈ members, Bounded depth member.2) :
    Bounded (depth + 1) (.object members)

/-- No floating-point number anywhere inside. -/
inductive DoubleFree : Json → Prop
  | null : DoubleFree .null
  | boolean (value : Bool) : DoubleFree (.boolean value)
  | integer (value : Int) : DoubleFree (.number (.integer value))
  | string (text : String) : DoubleFree (.string text)
  | array {items : List Json} (hitems : ∀ item ∈ items, DoubleFree item) :
    DoubleFree (.array items)
  | object {members : List (String × Json)}
    (hmembers : ∀ member ∈ members, DoubleFree member.2) :
    DoubleFree (.object members)

theorem bounded_number {negative : Bool} {text rest : List Char} {number : JsonNumber}
    (depth : Nat) (h : unsignedNumber negative text = .ok (number, rest)) :
    Bounded depth (.number number) := by
  cases number with
  | integer value => exact .integer depth (unsignedNumber_eq_integer h).1
  | double value => exact .double depth value

theorem bounded_of_scalarRead {text rest : List Char} {value : Json} (depth : Nat)
    (h : ScalarRead text value rest) : Bounded depth value := by
  cases h with
  | null => exact .null depth
  | yes => exact .boolean depth true
  | no => exact .boolean depth false
  | string => exact .string depth _
  | negative h => exact bounded_number depth h
  | natural _ h => exact bounded_number depth h

theorem bounded_ofMembers {depth : Nat} {members : List (String × Json)}
    (h : ∀ member ∈ members, Bounded depth member.2) :
    Bounded (depth + 1) (ofMembers members) := by
  obtain ⟨kept, hkept, hascending, hmembers⟩ := ofMembers_eq_object members
  rw [hkept]
  exact .object hascending fun member hm => h member (hmembers member hm)

/-- Whatever holds of all that a reader gives holds of the items that it gives. -/
theorem forall_of_itemsRead {item : Parser Json} {P : Json → Prop}
    (hitem : ∀ {text rest value}, item text = .ok (value, rest) → P value)
    {text rest : List Char} {items : List Json} (h : ItemsRead item text items rest) :
    ∀ value ∈ items, P value := by
  induction h with
  | last hfirst => simpa using hitem hfirst
  | more hfirst _ _ ih => simpa using ⟨hitem hfirst, ih⟩

theorem forall_of_membersRead {item : Parser Json} {P : Json → Prop}
    (hitem : ∀ {text rest value}, item text = .ok (value, rest) → P value)
    {text rest : List Char} {members : List (String × Json)}
    (h : MembersRead item text members rest) : ∀ member ∈ members, P member.2 := by
  have hmember {text rest : List Char} {first : String × Json}
      (h : member item text = .ok (first, rest)) : P first.2 := by
    obtain ⟨_, _, _, _, hvalue⟩ := member_eq_ok h
    exact hitem hvalue
  induction h with
  | last hfirst =>
    intro other hother
    obtain rfl := List.mem_singleton.mp hother
    exact hmember hfirst
  | more hfirst _ _ _ ih =>
    intro other hother
    rcases List.mem_cons.mp hother with rfl | hother
    · exact hmember hfirst
    · exact ih other hother

/-- One level of containers after the other. -/
theorem bounded_of_value {depth : Nat} {text rest : List Char} {value : Json}
    (h : Json.value depth text = .ok (value, rest)) : Bounded depth value := by
  induction depth generalizing text rest value with
  | zero =>
    cases valueRead_of_value h with
    | scalar h => exact bounded_of_scalarRead 0 h
  | succ depth ih =>
    cases valueRead_of_value h with
    | scalar h => exact bounded_of_scalarRead _ h
    | emptyArray => exact .array (by simp)
    | array _ hitems => exact .array (forall_of_itemsRead ih hitems)
    | emptyObject => exact .object .nil (by simp)
    | object _ _ hmembers => exact bounded_ofMembers (forall_of_membersRead ih hmembers)

theorem bounded_of_read {text : String} {value : Json} (h : read text = .ok value) :
    Bounded maxDepth value := by
  obtain ⟨rest, hvalue, _⟩ := document_eq_ok (read_eq_ok_iff.mp h)
  exact bounded_of_value hvalue

theorem Bounded.mono {depth deeper : Nat} {value : Json} (h : Bounded depth value)
    (hdepth : depth ≤ deeper) : Bounded deeper value := by
  induction h generalizing deeper with
  | null => exact .null deeper
  | boolean _ value => exact .boolean deeper value
  | integer _ h => exact .integer deeper h
  | double _ value => exact .double deeper value
  | string _ text => exact .string deeper text
  | array _ ih =>
    obtain ⟨below, rfl⟩ : ∃ below, deeper = below + 1 := ⟨deeper - 1, by omega⟩
    exact .array fun item hm => ih item hm (by omega)
  | object hascending _ ih =>
    obtain ⟨below, rfl⟩ : ∃ below, deeper = below + 1 := ⟨deeper - 1, by omega⟩
    exact .object hascending fun member hm => ih member hm (by omega)

theorem bounded_of_member? {depth : Nat} {object value : Json} {key : String}
    (h : Bounded depth object) (hmember : object.member? key = some value) :
    Bounded depth value := by
  cases h with
  | object _ hmembers =>
    exact (hmembers _ (mem_of_lookup hmember)).mono (Nat.le_succ _)
  | _ => cases hmember

theorem bounded_of_mem_array {depth : Nat} {items : List Json} {item : Json}
    (h : Bounded depth (.array items)) (hmember : item ∈ items) : Bounded depth item := by
  cases h with
  | array hitems => exact (hitems item hmember).mono (Nat.le_succ _)

theorem readable_of_bounded {depth : Nat} {value : Json} (h : Bounded depth value)
    (hfree : DoubleFree value) : Readable depth value := by
  induction h with
  | null depth => exact .null depth
  | boolean depth value => exact .boolean depth value
  | integer depth h => exact readable_of_fits h depth
  | double => cases hfree
  | string depth text => exact .string depth text
  | @array depth items _ ih =>
    cases hfree with
    | array hitems => exact .array depth items fun item hm => ih item hm (hitems item hm)
  | @object depth members hascending _ ih =>
    cases hfree with
    | object hmembers =>
      exact .object depth members hascending
        fun member hm => ih member hm (hmembers member hm)

/-- Without doubles in it, what stands in a text that was read is read back from its
compact text. -/
theorem read_text_of_bounded {value : Json} (h : Bounded maxDepth value)
    (hfree : DoubleFree value) : read value.text = .ok value :=
  read_text (readable_of_bounded h hfree)

end Compliance.Json

namespace Compliance.Approvals

open Json

/-- A decision of a ledger whose id is an array or an object without doubles. -/
structure HasCompositeId (document : Document) (decision : Decision) (id : Json) :
    Prop where
  holds : ∃ ledger made index, document.json = .ok ledger ∧
    decisions document.path ledger = .ok made ∧ made[index]? = some decision ∧
    HoldsId ledger index id
  composite : (∃ items, id = .array items) ∨ ∃ members, id = .object members
  doubleFree : DoubleFree id

theorem bounded_of_holdsId {ledger id : Json} {index depth : Nat}
    (h : Bounded depth ledger) (hid : HoldsId ledger index id) : Bounded depth id := by
  obtain ⟨items, item, hlist, hitem, hmember⟩ := hid
  have hitems := bounded_of_member? h hlist
  exact bounded_of_member?
    (bounded_of_mem_array hitems (List.mem_of_getElem? hitem)) hmember

theorem HasCompositeId.label {document : Document} {decision : Decision} {id : Json}
    (h : HasCompositeId document decision id) :
    decision.id = id.text ∧ Json.read id.text = .ok id := by
  obtain ⟨ledger, made, index, hjson, hmade, hdecision, hid⟩ := h.holds
  constructor
  · rw [id_of_holdsId hmade hdecision hid]
    rcases h.composite with ⟨items, rfl⟩ | ⟨members, rfl⟩ <;> rfl
  · have hbounded := bounded_of_holdsId (bounded_of_read (mapError_eq_ok_iff.mp hjson)) hid
    exact read_text_of_bounded hbounded h.doubleFree

/-- A decision whose id is an array or an object without doubles is called by one line
of JSON text, from which the reader gives the id back. So two such decisions, of one
ledger or of two, are called the same only if their ids are the same. -/
theorem composite_id_is_read_back {document other : Document}
    {decision second : Decision} {id otherId : Json}
    (h : HasCompositeId document decision id)
    (hother : HasCompositeId other second otherId) :
    SingleLine decision.id ∧ Json.read decision.id = .ok id ∧
      (decision.id = second.id ↔ id = otherId) := by
  obtain ⟨hlabel, hread⟩ := h.label
  obtain ⟨hotherLabel, hotherRead⟩ := hother.label
  refine ⟨?_, hlabel ▸ hread, ?_⟩
  · rw [hlabel]
    exact lineFeed_not_mem_text id
  · rw [hlabel, hotherLabel]
    constructor
    · intro hsame
      rw [hsame, hotherRead] at hread
      cases hread
      rfl
    · rintro rfl
      rfl

/-- A ledger with an array and an object for ids. -/
def releaseLedger : Document where
  path := "ledger.json"
  content := "\x7b\"decisions\": [\x7b\"id\": [1, \"a\\nb\"]\x7d, " ++
    "\x7b\"id\": \x7b\"release\": -2\x7d\x7d]\x7d"

/-- The ids of two releases are read back, and the decisions are called differently. -/
theorem releases_are_told_apart :
    ∃ first second,
      HasCompositeId releaseLedger first
        (.array [.number (.integer 1), .string "a\nb"]) ∧
      HasCompositeId releaseLedger second
        (.object [("release", .number (.integer (-2)))]) ∧
      SingleLine first.id ∧
      Json.read first.id = .ok (.array [.number (.integer 1), .string "a\nb"]) ∧
      first.id ≠ second.id := by
  let ledger := Json.object [("decisions", .array
    [.object [("id", .array [.number (.integer 1), .string "a\nb"])],
      .object [("id", .object [("release", .number (.integer (-2)))])]])]
  have hjson : releaseLedger.json = .ok ledger := rfl
  have hmade : decisions releaseLedger.path ledger = .ok [_, _] := rfl
  have hfirst : HasCompositeId releaseLedger _ _ :=
    ⟨⟨_, _, 0, hjson, hmade, rfl, _, _, rfl, rfl, rfl⟩, .inl ⟨_, rfl⟩,
      .array (by simpa using ⟨.integer 1, .string "a\nb"⟩)⟩
  have hsecond : HasCompositeId releaseLedger _ _ :=
    ⟨⟨_, _, 1, hjson, hmade, rfl, _, _, rfl, rfl, rfl⟩, .inr ⟨_, rfl⟩,
      .object (by simpa using .integer (-2))⟩
  obtain ⟨hline, hread, hsame⟩ := composite_id_is_read_back hfirst hsecond
  exact ⟨_, _, hfirst, hsecond, hline, hread, fun h => nomatch hsame.mp h⟩

end Compliance.Approvals
