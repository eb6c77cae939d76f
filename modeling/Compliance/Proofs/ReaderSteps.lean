import Compliance.Json.Reader
import Compliance.Proofs.Attempts

/-!
What the JSON reader has done when it succeeds. Each of its steps is taken apart
once: a value is a scalar or a container, and what stands in a container was read one
item or member after the other, each by the reader of one level less. What holds of
everything that is read can then be shown along these steps, without the bounds that
keep the reader from running on.
-/

namespace Compliance.Json

/-- Items read up to the closing bracket. -/
inductive ItemsRead (item : Parser Json) :
    List Char → List Json → List Char → Prop
  | last {text behind rest : List Char} {first : Json}
    (hitem : item text = .ok (first, behind))
    (hclosed : skipBlanks behind = ']' :: rest) :
    ItemsRead item text [first] rest
  | more {text behind next rest : List Char} {first : Json} {others : List Json}
    (hitem : item text = .ok (first, behind))
    (hcomma : skipBlanks behind = ',' :: next)
    (hothers : ItemsRead item (skipBlanks next) others rest) :
    ItemsRead item text (first :: others) rest

/-- Members read up to the closing brace, from behind the opening quote of the first
key. -/
inductive MembersRead (item : Parser Json) :
    List Char → List (String × Json) → List Char → Prop
  | last {text behind rest : List Char} {first : String × Json}
    (hmember : member item text = .ok (first, behind))
    (hclosed : skipBlanks behind = '\x7d' :: rest) :
    MembersRead item text [first] rest
  | more {text behind gap next rest : List Char} {first : String × Json}
    {others : List (String × Json)}
    (hmember : member item text = .ok (first, behind))
    (hcomma : skipBlanks behind = ',' :: gap)
    (hquote : skipBlanks gap = '"' :: next)
    (hothers : MembersRead item next others rest) :
    MembersRead item text (first :: others) rest

/-- A scalar at the front of a text. -/
inductive ScalarRead : List Char → Json → List Char → Prop
  | null (rest : List Char) : ScalarRead ('n' :: 'u' :: 'l' :: 'l' :: rest) .null rest
  | yes (rest : List Char) :
    ScalarRead ('t' :: 'r' :: 'u' :: 'e' :: rest) (.boolean true) rest
  | no (rest : List Char) :
    ScalarRead ('f' :: 'a' :: 'l' :: 's' :: 'e' :: rest) (.boolean false) rest
  | string {body rest : List Char} {text : String}
    (h : quotedString body = .ok (text, rest)) :
    ScalarRead ('"' :: body) (.string text) rest
  | negative {digits rest : List Char} {number : JsonNumber}
    (h : unsignedNumber true digits = .ok (number, rest)) :
    ScalarRead ('-' :: digits) (.number number) rest
  | natural {c : Char} {digits rest : List Char} {number : JsonNumber}
    (hdigit : c.isDigit = true)
    (h : unsignedNumber false (c :: digits) = .ok (number, rest)) :
    ScalarRead (c :: digits) (.number number) rest

/-- A value at the front of a text, read by a reader that goes `depth` containers
deep. -/
inductive ValueRead : Nat → List Char → Json → List Char → Prop
  | scalar {depth : Nat} {text rest : List Char} {value : Json}
    (h : ScalarRead (skipBlanks text) value rest) : ValueRead depth text value rest
  | emptyArray {depth : Nat} {text body rest : List Char}
    (hopened : skipBlanks text = '[' :: body)
    (hclosed : skipBlanks body = ']' :: rest) :
    ValueRead (depth + 1) text (.array []) rest
  | array {depth : Nat} {text body rest : List Char} {items : List Json}
    (hopened : skipBlanks text = '[' :: body)
    (hitems : ItemsRead (Json.value depth) (skipBlanks body) items rest) :
    ValueRead (depth + 1) text (.array items) rest
  | emptyObject {depth : Nat} {text body rest : List Char}
    (hopened : skipBlanks text = '\x7b' :: body)
    (hclosed : skipBlanks body = '\x7d' :: rest) :
    ValueRead (depth + 1) text (.object []) rest
  | object {depth : Nat} {text body next rest : List Char}
    {members : List (String × Json)}
    (hopened : skipBlanks text = '\x7b' :: body)
    (hquote : skipBlanks body = '"' :: next)
    (hmembers : MembersRead (Json.value depth) next members rest) :
    ValueRead (depth + 1) text (ofMembers members) rest

variable {item : Parser Json} {text rest : List Char}

theorem itemsRead_of_itemsFrom {room : Nat} {items : List Json}
    (h : itemsFrom item room text = .ok (items, rest)) :
    ItemsRead item text items rest := by
  induction room generalizing text items with
  | zero => cases h
  | succ room ih =>
    obtain ⟨⟨first, behind⟩, hitem, h⟩ := bind_eq_ok_iff.mp h
    dsimp only at h
    split at h
    · cases h
    · next hclosed =>
      cases h
      exact .last hitem hclosed
    · next next hcomma =>
      split at h
      · cases h
      · cases h
      · obtain ⟨⟨others, behind⟩, hothers, h⟩ := bind_eq_ok_iff.mp h
        cases h
        exact .more hitem hcomma (ih hothers)
    · cases h

theorem member_eq_ok {key : String} {value : Json}
    (h : member item text = .ok ((key, value), rest)) :
    ∃ behind start, quotedString text = .ok (key, behind) ∧
      skipBlanks behind = ':' :: start ∧ item start = .ok (value, rest) := by
  obtain ⟨⟨key, behind⟩, hkey, h⟩ := bind_eq_ok_iff.mp h
  dsimp only at h
  split at h
  · cases h
  · next start hcolon =>
    obtain ⟨⟨value, rest⟩, hvalue, h⟩ := bind_eq_ok_iff.mp h
    cases h
    exact ⟨behind, start, hkey, hcolon, hvalue⟩
  · cases h

theorem membersRead_of_membersFrom {room : Nat} {members : List (String × Json)}
    (h : membersFrom item room text = .ok (members, rest)) :
    MembersRead item text members rest := by
  induction room generalizing text members with
  | zero => cases h
  | succ room ih =>
    obtain ⟨⟨first, behind⟩, hmember, h⟩ := bind_eq_ok_iff.mp h
    dsimp only at h
    split at h
    · cases h
    · next hclosed =>
      cases h
      exact .last hmember hclosed
    · next gap hcomma =>
      split at h
      · cases h
      · next next hquote =>
        obtain ⟨⟨others, behind⟩, hothers, h⟩ := bind_eq_ok_iff.mp h
        cases h
        exact .more hmember hcomma hquote (ih hothers)
      · cases h
      · cases h
    · cases h

theorem literal_eq_ok {value read : Json} {expected : List Char}
    (h : literal value expected text = .ok (read, rest)) :
    read = value ∧ text = expected ++ rest := by
  induction expected generalizing text with
  | nil =>
    cases h
    exact ⟨rfl, rfl⟩
  | cons c more ih =>
    cases text with
    | nil => cases h
    | cons d behind =>
      rw [literal] at h
      split at h
      · next hsame =>
        obtain ⟨hvalue, hbehind⟩ := ih h
        exact ⟨hvalue, by rw [hsame, hbehind, List.cons_append]⟩
      · cases h

theorem scalarRead_of_scalar {value : Json} (h : scalar text = .ok (value, rest)) :
    ScalarRead text value rest := by
  unfold scalar at h
  split at h
  · cases h
  · obtain ⟨rfl, rfl⟩ := literal_eq_ok h
    exact .null rest
  · obtain ⟨rfl, rfl⟩ := literal_eq_ok h
    exact .yes rest
  · obtain ⟨rfl, rfl⟩ := literal_eq_ok h
    exact .no rest
  · obtain ⟨⟨read, behind⟩, hstring, hread⟩ := map_eq_ok_iff.mp h
    cases hread
    exact .string hstring
  · obtain ⟨⟨read, behind⟩, hnumber, hread⟩ := map_eq_ok_iff.mp h
    cases hread
    exact .negative hnumber
  · split at h
    · next hdigit =>
      obtain ⟨⟨read, behind⟩, hnumber, hread⟩ := map_eq_ok_iff.mp h
      cases hread
      exact .natural hdigit hnumber
    · cases h

theorem valueRead_of_value {depth : Nat} {value : Json}
    (h : Json.value depth text = .ok (value, rest)) : ValueRead depth text value rest := by
  unfold Json.value at h
  split at h
  · next body hopened =>
    cases depth with
    | zero => cases h
    | succ depth =>
      dsimp only [arrayBody] at h
      split at h
      · cases h
      · next hclosed =>
        cases h
        exact .emptyArray hopened hclosed
      · obtain ⟨⟨items, behind⟩, hitems, h⟩ := bind_eq_ok_iff.mp h
        cases h
        exact .array hopened (itemsRead_of_itemsFrom hitems)
  · next body hopened =>
    cases depth with
    | zero => cases h
    | succ depth =>
      dsimp only [objectBody] at h
      split at h
      · cases h
      · next hclosed =>
        cases h
        exact .emptyObject hopened hclosed
      · next next hquote =>
        obtain ⟨⟨members, behind⟩, hmembers, h⟩ := bind_eq_ok_iff.mp h
        cases h
        exact .object hopened hquote (membersRead_of_membersFrom hmembers)
      · cases h
  · exact .scalar (scalarRead_of_scalar h)

/-- A text that is one value has nothing but blanks behind it. -/
theorem document_eq_ok {value : Json} (h : document text = .ok value) :
    ∃ rest, Json.value maxDepth text = .ok (value, rest) ∧ skipBlanks rest = [] := by
  obtain ⟨⟨read, rest⟩, hvalue, h⟩ := bind_eq_ok_iff.mp h
  dsimp only at h
  split at h
  · next hblank =>
    cases h
    exact ⟨rest, hvalue, hblank⟩
  · cases h

theorem read_eq_ok_iff {text : String} {value : Json} :
    read text = .ok value ↔ document text.toList = .ok value :=
  mapError_eq_ok_iff

end Compliance.Json
