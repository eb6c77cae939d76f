import Compliance.Proofs.JsonMembers
import Compliance.Proofs.StructuredDocuments

/-!
Arrays under a pointer, and what becomes of the names that they declare when one of
them is exchanged for another. The exchange shows under the tokens that lead to the
array and under no pointer that begins with another token. Names are read as a set,
so an array that is rearranged declares what it declared before.
-/

namespace Compliance.Json

namespace Pointer

/-- A value in which what the tokens lead to is exchanged for another value. -/
def exchange? (put : Json) : List String → Json → Option Json
  | [], _ => some put
  | token :: rest, .object members => do
    let held ← members.lookup token
    let changed ← exchange? put rest held
    return .object (insertMember token changed members)
  | token :: rest, .array items => do
    let index ← index? token.toList
    let held ← items[index]?
    let changed ← exchange? put rest held
    return .array (items.set index changed)
  | _ :: _, _ => none

/-- The other value is found where it was put. -/
theorem follow_of_exchange? {put value changed : Json} {tokens : List String}
    (h : exchange? put tokens value = some changed) :
    follow changed tokens = some put := by
  induction tokens generalizing value changed with
  | nil => simpa [exchange?, follow, eq_comm] using h
  | cons token rest ih =>
    cases value with
    | object members =>
      simp only [exchange?, bind, pure, Option.bind_eq_some_iff,
        Option.some.injEq] at h
      obtain ⟨held, _, inner, hinner, rfl⟩ := h
      simp [follow, step, lookup_insertMember, ih hinner]
    | array items =>
      simp only [exchange?, bind, pure, Option.bind_eq_some_iff,
        Option.some.injEq] at h
      obtain ⟨index, hindex, held, hheld, inner, hinner, rfl⟩ := h
      obtain ⟨hlt, _⟩ := List.getElem?_eq_some_iff.mp hheld
      simp [follow, step, hindex, hlt, ih hinner]
    | _ => simp [exchange?] at h

/-- Under another member of an object nothing changes. -/
theorem follow_other_of_exchange? {put changed : Json}
    {members : List (String × Json)} {token other : String} {tokens : List String}
    (h : exchange? put (token :: tokens) (.object members) = some changed)
    (hother : other ≠ token) (rest : List String) :
    follow changed (other :: rest) = follow (.object members) (other :: rest) := by
  simp only [exchange?, bind, pure, Option.bind_eq_some_iff,
    Option.some.injEq] at h
  obtain ⟨held, _, inner, _, rfl⟩ := h
  simp only [follow, step, lookup_insertMember, if_neg hother]

end Pointer

/-- What may be done to an array that is read as a set of names: its items are put
in another order, one of them is repeated, or something that is no string is added.
-/
inductive Rearranged : List Json → List Json → Prop
  | reordered {items given : List Json} (h : items.Perm given) :
    Rearranged items given
  | repeated {items : List Json} {item : Json} (h : item ∈ items) :
    Rearranged items (item :: items)
  | padded {items : List Json} {item : Json} (h : item.string? = none) :
    Rearranged items (item :: items)
  | trans {items between given : List Json} (h : Rearranged items between)
    (hnext : Rearranged between given) : Rearranged items given

theorem Rearranged.string_mem_iff {items given : List Json}
    (h : Rearranged items given) (name : String) :
    string name ∈ given ↔ string name ∈ items := by
  induction h with
  | reordered hperm => exact hperm.mem_iff.symm
  | repeated hitem =>
    constructor
    · intro hname
      rcases List.mem_cons.mp hname with rfl | hname
      · exact hitem
      · exact hname
    · exact List.mem_cons_of_mem _
  | padded hitem =>
    constructor
    · intro hname
      rcases List.mem_cons.mp hname with rfl | hname
      · cases hitem
      · exact hname
    · exact List.mem_cons_of_mem _
  | trans _ _ ih ihnext => exact ihnext.trans ih

/-- The tokens of a pointer lead to the array whose names it declares. -/
theorem declares_iff_of_follow {value : Json} {pointer : String}
    {tokens : List String} {items : List Json}
    (htokens : Pointer.tokens? pointer.toList = some tokens)
    (hfollow : Pointer.follow value tokens = some (array items)) (name : String) :
    value.Declares pointer name ↔ string name ∈ items := by
  simp [Declares, pointer?, htokens, hfollow]

/-- An exchange has no part in what a pointer declares that begins with another
token. -/
theorem declares_iff_of_exchange? {put : Json}
    {members changed : List (String × Json)} {token pointer : String}
    {tokens : List String}
    (h : Pointer.exchange? put (token :: tokens) (object members) =
      some (object changed))
    (hother : ∀ path, Pointer.tokens? pointer.toList = some path →
      path.head? ≠ some token) (name : String) :
    (object changed).Declares pointer name ↔ (object members).Declares pointer name := by
  unfold Declares pointer?
  cases hpath : Pointer.tokens? pointer.toList with
  | none => simp
  | some path =>
    cases path with
    | nil => simp [Pointer.follow]
    | cons other rest =>
      have hdiffer : other ≠ token := by simpa using hother _ hpath
      simp only [Option.bind_some, Pointer.follow_other_of_exchange? h hdiffer]

end Compliance.Json
