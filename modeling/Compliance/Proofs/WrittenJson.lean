import Compliance.Proofs.JsonMembers
import Compliance.Proofs.NumberSpellings

/-!
JSON texts as they are written. A written value keeps the spellings of its scalars and
the members of its objects as they stand in the text, in their order and with repeated
keys. A text that the reader accepts is written in exactly one way, and what the reader
makes of it is the value of what is written.
-/

namespace Compliance.Json

/-- A value as it is written. -/
inductive Written where
  | scalar (spelling : List Char) (value : Json)
  | array (items : List Written)
  | object (members : List (String × Written))

namespace Written

mutual

/-- What is written. -/
def value : Written → Json
  | scalar _ value => value
  | array items => .array (itemValues items)
  | object members => ofMembers (memberValues members)

def itemValues : List Written → List Json
  | [] => []
  | item :: rest => item.value :: itemValues rest

def memberValues : List (String × Written) → List (String × Json)
  | [] => []
  | (key, item) :: rest => (key, item.value) :: memberValues rest

end

theorem itemValues_eq_map (items : List Written) :
    itemValues items = items.map value := by
  induction items with
  | nil => rfl
  | cons item rest ih => rw [itemValues, ih, List.map_cons]

theorem memberValues_eq_map (members : List (String × Written)) :
    memberValues members = members.map fun member => (member.1, member.2.value) := by
  induction members with
  | nil => rfl
  | cons member rest ih =>
    obtain ⟨key, item⟩ := member
    rw [memberValues, ih, List.map_cons]

end Written

/-- What can stand in a text: a value, a member behind the opening quote of its key,
the items of an array, and the members of an object behind the first opening quote. -/
inductive Piece where
  | value (written : Written)
  | member (member : String × Written)
  | items (items : List Written)
  | members (members : List (String × Written))

/-- A piece stands at the front of a text, with some rest behind it. -/
inductive Stands : Piece → List Char → List Char → Prop
  | scalar {text spelling rest : List Char} {value : Json}
    (hread : scalar (skipBlanks text) = .ok (value, rest))
    (hspelling : skipBlanks text = spelling ++ rest) :
    Stands (.value (.scalar spelling value)) text rest
  | emptyArray {text body rest : List Char} (hopened : skipBlanks text = '[' :: body)
    (hclosed : skipBlanks body = ']' :: rest) : Stands (.value (.array [])) text rest
  | array {text body rest : List Char} {items : List Written}
    (hopened : skipBlanks text = '[' :: body)
    (hitems : Stands (.items items) (skipBlanks body) rest) :
    Stands (.value (.array items)) text rest
  | emptyObject {text body rest : List Char}
    (hopened : skipBlanks text = '\x7b' :: body)
    (hclosed : skipBlanks body = '\x7d' :: rest) :
    Stands (.value (.object [])) text rest
  | object {text body next rest : List Char} {members : List (String × Written)}
    (hopened : skipBlanks text = '\x7b' :: body)
    (hquote : skipBlanks body = '"' :: next)
    (hmembers : Stands (.members members) next rest) :
    Stands (.value (.object members)) text rest
  | member {text behind start rest : List Char} {key : String} {item : Written}
    (hkey : quotedString text = .ok (key, behind))
    (hcolon : skipBlanks behind = ':' :: start)
    (hitem : Stands (.value item) start rest) : Stands (.member (key, item)) text rest
  | lastItem {text behind rest : List Char} {item : Written}
    (hitem : Stands (.value item) text behind)
    (hclosed : skipBlanks behind = ']' :: rest) : Stands (.items [item]) text rest
  | moreItems {text behind next rest : List Char} {item : Written}
    {others : List Written} (hitem : Stands (.value item) text behind)
    (hcomma : skipBlanks behind = ',' :: next)
    (hothers : Stands (.items others) (skipBlanks next) rest) :
    Stands (.items (item :: others)) text rest
  | lastMember {text behind rest : List Char} {member : String × Written}
    (hmember : Stands (.member member) text behind)
    (hclosed : skipBlanks behind = '\x7d' :: rest) : Stands (.members [member]) text rest
  | moreMembers {text behind gap next rest : List Char} {member : String × Written}
    {others : List (String × Written)} (hmember : Stands (.member member) text behind)
    (hcomma : skipBlanks behind = ',' :: gap) (hquote : skipBlanks gap = '"' :: next)
    (hothers : Stands (.members others) next rest) :
    Stands (.members (member :: others)) text rest

/-! ## Every text that is read is written -/

theorem stringBody_suffix {skip : Nat} {text body rest : List Char}
    (h : stringBody skip text = .ok (body, rest)) : rest <:+ text := by
  induction text generalizing skip body with
  | nil => cases skip <;> cases h
  | cons c others ih =>
    have hothers {skip : Nat} {body : List Char}
        (h : stringBody skip others = .ok (body, rest)) : rest <:+ c :: others :=
      (ih h).trans (List.suffix_cons c others)
    cases skip with
    | succ skip => exact hothers h
    | zero =>
      unfold stringBody at h
      split at h
      · cases h
        exact List.suffix_cons ..
      split at h
      · obtain ⟨escape, _, h⟩ := bind_eq_ok_iff.mp h
        obtain ⟨⟨body, behind⟩, hbody, h⟩ := bind_eq_ok_iff.mp h
        cases h
        exact hothers hbody
      split at h
      · cases h
      · obtain ⟨⟨body, behind⟩, hbody, h⟩ := bind_eq_ok_iff.mp h
        cases h
        exact hothers hbody

/-- A scalar is spelled by a front part of the text. -/
theorem scalar_of_scalarRead {text rest : List Char} {value : Json}
    (h : ScalarRead text value rest) :
    scalar text = .ok (value, rest) ∧ rest <:+ text := by
  cases h with
  | null => exact ⟨rfl, ['n', 'u', 'l', 'l'], rfl⟩
  | yes => exact ⟨rfl, ['t', 'r', 'u', 'e'], rfl⟩
  | no => exact ⟨rfl, ['f', 'a', 'l', 's', 'e'], rfl⟩
  | string h =>
    obtain ⟨⟨body, behind⟩, hbody, hread⟩ := bind_eq_ok_iff.mp h
    cases hread
    refine ⟨?_, (stringBody_suffix hbody).trans (List.suffix_cons ..)⟩
    rw [scalar, h]
    rfl
  | negative h =>
    refine ⟨?_, ((settles_unsignedNumber true).leaves h).trans (List.suffix_cons ..)⟩
    rw [scalar, h]
    rfl
  | natural hdigit h =>
    refine ⟨?_, (settles_unsignedNumber false).leaves h⟩
    rw [scalar_digit hdigit, h]
    rfl

section Reading

variable {depth : Nat} (hvalue : ∀ {text rest : List Char} {value : Json},
  Json.value depth text = .ok (value, rest) →
    ∃ written, Stands (.value written) text rest ∧ written.value = value)

include hvalue

theorem stands_of_itemsRead {text rest : List Char} {items : List Json}
    (h : ItemsRead (Json.value depth) text items rest) :
    ∃ written, Stands (.items written) text rest ∧
      Written.itemValues written = items := by
  induction h with
  | last hitem hclosed =>
    obtain ⟨item, hstands, rfl⟩ := hvalue hitem
    exact ⟨[item], .lastItem hstands hclosed, rfl⟩
  | more hitem hcomma _ ih =>
    obtain ⟨item, hstands, rfl⟩ := hvalue hitem
    obtain ⟨others, hothers, rfl⟩ := ih
    exact ⟨item :: others, .moreItems hstands hcomma hothers, rfl⟩

theorem stands_of_member {text rest : List Char} {member : String × Json}
    (h : Json.member (Json.value depth) text = .ok (member, rest)) :
    ∃ written : Written, Stands (.member (member.1, written)) text rest ∧
      written.value = member.2 := by
  obtain ⟨behind, start, hkey, hcolon, hitem⟩ := member_eq_ok h
  obtain ⟨written, hstands, hwritten⟩ := hvalue hitem
  exact ⟨written, .member hkey hcolon hstands, hwritten⟩

theorem stands_of_membersRead {text rest : List Char} {members : List (String × Json)}
    (h : MembersRead (Json.value depth) text members rest) :
    ∃ written, Stands (.members written) text rest ∧
      Written.memberValues written = members := by
  induction h with
  | last hmember hclosed =>
    obtain ⟨item, hstands, hitem⟩ := stands_of_member hvalue hmember
    refine ⟨[(_, item)], .lastMember hstands hclosed, ?_⟩
    rw [Written.memberValues, Written.memberValues, hitem]
  | more hmember hcomma hquote _ ih =>
    obtain ⟨item, hstands, hitem⟩ := stands_of_member hvalue hmember
    obtain ⟨others, hothers, rfl⟩ := ih
    refine ⟨(_, item) :: others, .moreMembers hstands hcomma hquote hothers, ?_⟩
    rw [Written.memberValues, hitem]

end Reading

/-- What is read is written in the text. -/
theorem stands_of_value {depth : Nat} {text rest : List Char} {value : Json}
    (h : Json.value depth text = .ok (value, rest)) :
    ∃ written, Stands (.value written) text rest ∧ written.value = value := by
  induction depth generalizing text rest value with
  | zero =>
    cases valueRead_of_value h with
    | scalar h =>
      obtain ⟨hread, spelling, hspelling⟩ := scalar_of_scalarRead h
      exact ⟨.scalar spelling value, .scalar hread hspelling.symm, rfl⟩
  | succ depth ih =>
    cases valueRead_of_value h with
    | scalar h =>
      obtain ⟨hread, spelling, hspelling⟩ := scalar_of_scalarRead h
      exact ⟨.scalar spelling value, .scalar hread hspelling.symm, rfl⟩
    | emptyArray hopened hclosed => exact ⟨.array [], .emptyArray hopened hclosed, rfl⟩
    | array hopened hitems =>
      obtain ⟨items, hstands, rfl⟩ := stands_of_itemsRead ih hitems
      exact ⟨.array items, .array hopened hstands, by rw [Written.value]⟩
    | emptyObject hopened hclosed =>
      exact ⟨.object [], .emptyObject hopened hclosed, rfl⟩
    | object hopened hquote hmembers =>
      obtain ⟨members, hstands, rfl⟩ := stands_of_membersRead ih hmembers
      exact ⟨.object members, .object hopened hquote hstands, by rw [Written.value]⟩

/-! ## No text is written in two ways -/

/-- No scalar begins like a container, or like the end of an array. -/
theorem scalar_bracket {c : Char} (h : c = '[' ∨ c = '\x7b' ∨ c = ']')
    (body : List Char) {value : Json} {rest : List Char} :
    scalar (c :: body) ≠ .ok (value, rest) := by
  intro hread
  cases scalarRead_of_scalar hread with
  | natural hdigit => rcases h with rfl | rfl | rfl <;> cases hdigit
  | _ => simp at h

/-- No item begins like the end of its array. -/
theorem not_stands_closing {written : List Written} {text body rest : List Char}
    (hclosed : skipBlanks text = ']' :: body) : ¬Stands (.items written) text rest := by
  have hitem {item : Written} {behind : List Char} :
      ¬Stands (.value item) text behind := by
    intro h
    cases h with
    | scalar hread => exact scalar_bracket (by simp) body (hclosed ▸ hread)
    | emptyArray hopened => cases hclosed.symm.trans hopened
    | array hopened => cases hclosed.symm.trans hopened
    | emptyObject hopened => cases hclosed.symm.trans hopened
    | object hopened => cases hclosed.symm.trans hopened
  intro h
  cases h with
  | lastItem h => exact hitem h
  | moreItems h => exact hitem h

theorem skipBlanks_idem (text : List Char) :
    skipBlanks (skipBlanks text) = skipBlanks text := by
  induction text with
  | nil => rfl
  | cons c others ih =>
    cases hc : isBlank c with
    | true => simpa [skipBlanks, hc] using ih
    | false => simp [skipBlanks, hc]

/-- The kind of a piece. -/
inductive Piece.Like : Piece → Piece → Prop
  | value (first second : Written) : Piece.Like (.value first) (.value second)
  | member (first second : String × Written) :
    Piece.Like (.member first) (.member second)
  | items (first second : List Written) : Piece.Like (.items first) (.items second)
  | members (first second : List (String × Written)) :
    Piece.Like (.members first) (.members second)

/-- Two pieces of one kind that stand at the front of the same text are the same. -/
theorem Stands.unique {piece other : Piece} {text rest behind : List Char}
    (h : Stands piece text rest) (hother : Stands other text behind)
    (hlike : piece.Like other) : other = piece ∧ behind = rest := by
  -- What begins a piece, and what follows each part of it, is the same for both; so the
  -- two were built by one constructor, and their parts are the same by induction.
  induction h generalizing other behind with
  | scalar hread hspelling =>
    cases hother with
    | scalar hagain hsame =>
      cases hread.symm.trans hagain
      cases List.append_cancel_right (hspelling.symm.trans hsame)
      exact ⟨rfl, rfl⟩
    | emptyArray hopened | array hopened | emptyObject hopened | object hopened =>
      exact (scalar_bracket (by simp) _ (hopened ▸ hread)).elim
    | _ => cases hlike
  | emptyArray hopened hclosed =>
    cases hother with
    | scalar hread => exact (scalar_bracket (by simp) _ (hopened ▸ hread)).elim
    | emptyArray hagain hend =>
      cases hopened.symm.trans hagain
      cases hclosed.symm.trans hend
      exact ⟨rfl, rfl⟩
    | array hagain hitems =>
      cases hopened.symm.trans hagain
      exact (not_stands_closing ((skipBlanks_idem _).trans hclosed) hitems).elim
    | emptyObject hagain | object hagain => cases hopened.symm.trans hagain
    | _ => cases hlike
  | array hopened hitems ih =>
    cases hother with
    | scalar hread => exact (scalar_bracket (by simp) _ (hopened ▸ hread)).elim
    | emptyArray hagain hend =>
      cases hopened.symm.trans hagain
      exact (not_stands_closing ((skipBlanks_idem _).trans hend) hitems).elim
    | array hagain hother =>
      cases hopened.symm.trans hagain
      obtain ⟨hsame, rfl⟩ := ih hother (.items ..)
      cases hsame
      exact ⟨rfl, rfl⟩
    | emptyObject hagain | object hagain => cases hopened.symm.trans hagain
    | _ => cases hlike
  | emptyObject hopened hclosed =>
    cases hother with
    | scalar hread => exact (scalar_bracket (by simp) _ (hopened ▸ hread)).elim
    | emptyArray hagain | array hagain => cases hopened.symm.trans hagain
    | emptyObject hagain hend =>
      cases hopened.symm.trans hagain
      cases hclosed.symm.trans hend
      exact ⟨rfl, rfl⟩
    | object hagain hquote =>
      cases hopened.symm.trans hagain
      cases hclosed.symm.trans hquote
    | _ => cases hlike
  | object hopened hquote hmembers ih =>
    cases hother with
    | scalar hread => exact (scalar_bracket (by simp) _ (hopened ▸ hread)).elim
    | emptyArray hagain | array hagain => cases hopened.symm.trans hagain
    | emptyObject hagain hend =>
      cases hopened.symm.trans hagain
      cases hquote.symm.trans hend
    | object hagain hmark hother =>
      cases hopened.symm.trans hagain
      cases hquote.symm.trans hmark
      obtain ⟨hsame, rfl⟩ := ih hother (.members ..)
      cases hsame
      exact ⟨rfl, rfl⟩
    | _ => cases hlike
  | lastItem hitem hclosed ih =>
    cases hother with
    | lastItem hother hend =>
      obtain ⟨hsame, rfl⟩ := ih hother (.value ..)
      cases hsame
      cases hclosed.symm.trans hend
      exact ⟨rfl, rfl⟩
    | moreItems hother hcomma =>
      obtain ⟨_, rfl⟩ := ih hother (.value ..)
      cases hclosed.symm.trans hcomma
    | _ => cases hlike
  | moreItems hitem hcomma hothers ih ihothers =>
    cases hother with
    | lastItem hother hend =>
      obtain ⟨_, rfl⟩ := ih hother (.value ..)
      cases hcomma.symm.trans hend
    | moreItems hother hagain hrest =>
      obtain ⟨hsame, rfl⟩ := ih hother (.value ..)
      cases hsame
      cases hcomma.symm.trans hagain
      obtain ⟨hsame, rfl⟩ := ihothers hrest (.items ..)
      cases hsame
      exact ⟨rfl, rfl⟩
    | _ => cases hlike
  | member hkey hcolon hitem ih =>
    cases hother with
    | member hname hmark hother =>
      cases hkey.symm.trans hname
      cases hcolon.symm.trans hmark
      obtain ⟨hsame, rfl⟩ := ih hother (.value ..)
      cases hsame
      exact ⟨rfl, rfl⟩
    | _ => cases hlike
  | lastMember hmember hclosed ih =>
    cases hother with
    | lastMember hother hend =>
      obtain ⟨hsame, rfl⟩ := ih hother (.member ..)
      cases hsame
      cases hclosed.symm.trans hend
      exact ⟨rfl, rfl⟩
    | moreMembers hother hcomma =>
      obtain ⟨_, rfl⟩ := ih hother (.member ..)
      cases hclosed.symm.trans hcomma
    | _ => cases hlike
  | moreMembers hmember hcomma hquote hothers ih ihothers =>
    cases hother with
    | lastMember hother hend =>
      obtain ⟨_, rfl⟩ := ih hother (.member ..)
      cases hcomma.symm.trans hend
    | moreMembers hother hagain hnext hrest =>
      obtain ⟨hsame, rfl⟩ := ih hother (.member ..)
      cases hsame
      cases hcomma.symm.trans hagain
      cases hquote.symm.trans hnext
      obtain ⟨hsame, rfl⟩ := ihothers hrest (.members ..)
      cases hsame
      exact ⟨rfl, rfl⟩
    | _ => cases hlike

/-- A value is all of a text, but for blanks. -/
def Written.IsText (written : Written) (text : String) : Prop :=
  ∃ rest, Stands (.value written) text.toList rest ∧ skipBlanks rest = []

theorem Written.IsText.unique {first second : Written} {text : String}
    (h : first.IsText text) (hsecond : second.IsText text) : second = first := by
  obtain ⟨_, hstands, _⟩ := h
  obtain ⟨_, hother, _⟩ := hsecond
  cases (hstands.unique hother (.value ..)).1
  rfl

/-- A text that is read is written in one way, and is read as what is written. -/
theorem exists_isText_of_read {text : String} {value : Json}
    (h : read text = .ok value) :
    ∃ written : Written, written.IsText text ∧ written.value = value := by
  obtain ⟨rest, hvalue, hblank⟩ := document_eq_ok (read_eq_ok_iff.mp h)
  obtain ⟨written, hstands, hwritten⟩ := stands_of_value hvalue
  exact ⟨written, ⟨rest, hstands, hblank⟩, hwritten⟩

end Compliance.Json
