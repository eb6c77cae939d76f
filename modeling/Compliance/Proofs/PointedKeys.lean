import Compliance.Proofs.RequirementVerdicts

/-!
Pointers that are made of keys. Whatever characters the keys hold, the pointer has
them as its tokens, so it leads where the keys lead through nested objects. A token
can also count the items of an array, so the two part where an array stands in the
way. The enumeration that a schema is checked for is thus the array that its keys
name.
-/

namespace Compliance.Json

namespace Pointer

/-- The pointer that keys make: a slash before each key, which is escaped. -/
def ofKeys (keys : List String) : String :=
  String.ofList (keys.flatMap fun key => '/' :: escapeToken key.toList)

theorem slash_not_mem_escapeToken (token : List Char) : '/' ∉ escapeToken token := by
  induction token with
  | nil => exact List.not_mem_nil
  | cons c rest ih =>
    have hfirst : '/' ∉
        if c = '~' then ['~', '0'] else if c = '/' then ['~', '1'] else [c] := by
      split
      · decide
      split
      · decide
      · next hslash => simpa using Ne.symm hslash
    rw [escapeToken, List.mem_append, not_or]
    exact ⟨hfirst, ih⟩

/-- Slashes in a pointer stand only between its keys. -/
theorem split_escaped (key : String) (keys : List String) :
    Text.split '/' (escapeToken key.toList ++
        keys.flatMap fun key => '/' :: escapeToken key.toList) =
      (key :: keys).map fun key => escapeToken key.toList := by
  rw [Text.split_eq_splitOn]
  induction keys generalizing key with
  | nil =>
    rw [List.flatMap_nil, List.append_nil,
      List.splitOn_eq_singleton (slash_not_mem_escapeToken _)]
    rfl
  | cons next rest ih =>
    rw [List.flatMap_cons, List.cons_append, List.splitOn_append_cons_self, ih,
      List.splitOn_eq_singleton (slash_not_mem_escapeToken _)]
    rfl

/-- The tokens of the pointer are the keys again. -/
theorem tokens?_ofKeys (keys : List String) :
    tokens? (ofKeys keys).toList = some keys := by
  rw [ofKeys, String.toList_ofList]
  cases keys with
  | nil => rfl
  | cons key rest =>
    rw [List.flatMap_cons, List.cons_append, tokens?, split_escaped, List.map_map]
    simp [Function.comp_def, unescapeToken_escapeToken]

end Pointer

/-- The value that keys lead to through nested objects. -/
def nested? (value : Json) : List String → Option Json
  | [] => some value
  | key :: rest => (value.member? key).bind fun held => held.nested? rest

theorem nested?_append (value : Json) (front more : List String) :
    value.nested? (front ++ more) =
      (value.nested? front).bind fun held => held.nested? more := by
  induction front generalizing value with
  | nil => rfl
  | cons key rest ih =>
    rw [List.cons_append, nested?, nested?, Option.bind_assoc]
    simp only [ih]

/-- Before the last key the keys lead to no array. -/
def MeetsNoArray (value : Json) (keys : List String) : Prop :=
  ∀ front more items, keys = front ++ more → more ≠ [] →
    value.nested? front ≠ some (array items)

theorem MeetsNoArray.of_member? {value held : Json} {key : String} {rest : List String}
    (h : value.MeetsNoArray (key :: rest)) (hheld : value.member? key = some held) :
    held.MeetsNoArray rest := by
  intro front more items hkeys hmore hfront
  have hlonger : value.nested? (key :: front) = some (array items) := by
    rw [nested?, hheld]
    exact hfront
  exact h (key :: front) more items (by rw [hkeys, List.cons_append]) hmore hlonger

/-- Keys that lead anywhere lead there through objects alone. -/
theorem meetsNoArray_of_nested? {value found : Json} {keys : List String}
    (h : value.nested? keys = some found) : value.MeetsNoArray keys := by
  rintro front more items rfl hmore hfront
  obtain ⟨key, rest, rfl⟩ := List.exists_cons_of_ne_nil hmore
  rw [nested?_append, hfront] at h
  cases h

/-- Tokens are followed like keys as long as there are no items to count. -/
theorem follow_eq_nested? {value : Json} {keys : List String}
    (h : value.MeetsNoArray keys) : Pointer.follow value keys = value.nested? keys := by
  induction keys generalizing value with
  | nil => rfl
  | cons key rest ih =>
    have hstep : Pointer.step value key = value.member? key := by
      cases value with
      | array items => exact absurd rfl (h [] _ items rfl (List.cons_ne_nil key rest))
      | _ => rfl
    rw [Pointer.follow, nested?, hstep]
    cases hheld : value.member? key with
    | none => rfl
    | some held => exact ih (h.of_member? hheld)

theorem pointer?_ofKeys {value : Json} {keys : List String}
    (h : value.MeetsNoArray keys) :
    value.pointer? (Pointer.ofKeys keys) = value.nested? keys := by
  rw [pointer?, Pointer.tokens?_ofKeys]
  exact follow_eq_nested? h

end Compliance.Json

namespace Compliance.Requirement

/-- What a comparison of declared with expected names has to find: nothing if they
are the same, and otherwise one mismatch that gives both sides in full. -/
def Compares (path field : String) (expected : NameSet) (declared : String → Prop)
    (found : List Violation) : Prop :=
  (found = [] ↔ ∀ name, declared name ↔ name ∈ expected) ∧
    (found = [] ∨
      ∃ wanted actual, found = [.enumMismatch path field wanted actual] ∧
      Enumerates wanted (· ∈ expected) ∧ Enumerates actual declared)

theorem checkEnumEquality_compares {value : Json} {pointer : String}
    {declared : String → Prop} (path field : String) (expected : NameSet)
    (h : ∀ name, value.Declares pointer name ↔ declared name) :
    Compares path field expected declared
      (checkEnumEquality path pointer field value expected) := by
  obtain rfl : value.Declares pointer = declared := funext fun name => propext (h name)
  exact checkEnumEquality_verdict path pointer field expected value

/-- A pointer made of keys names the array that the keys lead to through nested
objects: its strings are the set that is read and that the check compares with the
expected names. Where the keys lead to no array, and meet none on the way, no name
is declared. -/
theorem enumeration_along_keys (value : Json) (keys : List String) (path field : String)
    (expected : NameSet) :
    let pointer := Json.Pointer.ofKeys keys
    let found := checkEnumEquality path pointer field value expected
    (∀ items, value.nested? keys = some (.array items) →
        Enumerates (value.stringSet pointer).names (fun name => .string name ∈ items) ∧
        Compares path field expected (fun name => .string name ∈ items) found) ∧
      (value.MeetsNoArray keys → (∀ items, value.nested? keys ≠ some (.array items)) →
        value.stringSet pointer = NameSet.empty ∧
        Compares path field expected (fun _ => False) found) := by
  intro pointer found
  constructor
  · intro items hitems
    have hpointer := Json.pointer?_ofKeys (Json.meetsNoArray_of_nested? hitems)
    have hdeclares (name : String) :
        value.Declares pointer name ↔ .string name ∈ items := by
      simp [pointer, Json.Declares, hpointer, hitems]
    refine ⟨⟨NameSet.ascending _, fun name => ?_⟩,
      checkEnumEquality_compares path field expected hdeclares⟩
    exact NameSet.mem_def.symm.trans (Json.mem_stringSet.trans (hdeclares name))
  · intro hobjects hnone
    have hpointer := Json.pointer?_ofKeys hobjects
    have hdeclares (name : String) : value.Declares pointer name ↔ False := by
      simp [pointer, Json.Declares, hpointer, hnone]
    refine ⟨NameSet.eq_iff.mpr fun name => ?_,
      checkEnumEquality_compares path field expected hdeclares⟩
    rw [Json.mem_stringSet, hdeclares]
    simp [NameSet.mem_def, NameSet.empty]

/-- A schema with an enumeration below keys that a pointer has to escape. -/
def escapedSchema : Json :=
  .object
    [("0", .array [.array [.string "void"]]),
     ("~01", .object
      [("a/b", .object [("", .array [.string "paid", .null, .string "due"])])])]

/-- A key is no item of an array, but a token may be. -/
example : (escapedSchema.nested? ["0", "0"]).isNone ∧
    (escapedSchema.stringSet (Json.Pointer.ofKeys ["0", "0"])).names = ["void"] := by
  decide

theorem enumeration_along_escaped_keys :
    Json.Pointer.ofKeys ["~01", "a/b", ""] = "/~001/a~1b/" ∧
      escapedSchema.nested? ["~01", "a/b", ""] =
        some (.array [.string "paid", .null, .string "due"]) ∧
      checkEnumEquality "schema.json" "/~001/a~1b/" "event_type" escapedSchema
        (.ofList ["due", "paid"]) = [] ∧
      escapedSchema.MeetsNoArray ["~01", "a/b"] ∧
      escapedSchema.stringSet "/~001/a~1b" = NameSet.empty := by
  have hpointer : Json.Pointer.ofKeys ["~01", "a/b", ""] = "/~001/a~1b/" := by decide
  have hitems : escapedSchema.nested? ["~01", "a/b", ""] =
      some (.array [.string "paid", .null, .string "due"]) := rfl
  have hobject : escapedSchema.nested? ["~01", "a/b"] = some
      (.object [("", .array [.string "paid", .null, .string "due"])]) := rfl
  have hmeets := Json.meetsNoArray_of_nested? hobject
  obtain ⟨hreached, _⟩ := enumeration_along_keys escapedSchema ["~01", "a/b", ""]
    "schema.json" "event_type" (.ofList ["due", "paid"])
  obtain ⟨_, hmissed⟩ := enumeration_along_keys escapedSchema ["~01", "a/b"]
    "schema.json" "event_type" (.ofList ["due", "paid"])
  have hequal := (hreached _ hitems).2.1.mpr fun name => by
    simp [NameSet.mem_ofList, or_comm]
  have hnone (items : List Json) :
      escapedSchema.nested? ["~01", "a/b"] ≠ some (.array items) := by
    rw [hobject]
    simp
  exact ⟨hpointer, hitems, hpointer ▸ hequal, hmeets, (hmissed hmeets hnone).1⟩

end Compliance.Requirement
