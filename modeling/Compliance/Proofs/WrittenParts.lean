import Compliance.Proofs.WrittenJson

/-!
The parts of a text that is written. What the items and members of a written value are
is what its value has at the same places, and each of them stands somewhere in the
text, with a comma, the end of a container or the end of the text behind it. So each
number in a text is spelled by all the characters there that numbers are made of, and
is what these are read as.
-/

namespace Compliance.Json

/-- The item at a position of an array. -/
def Written.item? (index : Nat) : Written → Option Written
  | array items => items[index]?
  | _ => none

/-- The member of an object with a key, the last one if the key is repeated. -/
def Written.member? (key : String) : Written → Option Written
  | object members => members.reverse.lookup key
  | _ => none

theorem skipBlanks_suffix (text : List Char) : skipBlanks text <:+ text :=
  List.dropWhile_suffix _

theorem suffix_of_skipBlanks {text rest : List Char} {c : Char}
    (h : skipBlanks text = c :: rest) : rest <:+ text :=
  (List.suffix_cons c rest).trans (h ▸ skipBlanks_suffix text)

/-- A piece is a front part of the text. -/
theorem Stands.suffix {piece : Piece} {text rest : List Char}
    (h : Stands piece text rest) : rest <:+ text := by
  induction h with
  | @scalar text spelling rest value hread hspelling =>
    have hrest : rest <:+ skipBlanks text := ⟨spelling, hspelling.symm⟩
    exact hrest.trans (skipBlanks_suffix text)
  | emptyArray hopened hclosed | emptyObject hopened hclosed =>
    exact (suffix_of_skipBlanks hclosed).trans (suffix_of_skipBlanks hopened)
  | array hopened _ ih =>
    exact ih.trans ((skipBlanks_suffix _).trans (suffix_of_skipBlanks hopened))
  | object hopened hquote _ ih =>
    exact ih.trans ((suffix_of_skipBlanks hquote).trans (suffix_of_skipBlanks hopened))
  | member hkey hcolon _ ih =>
    obtain ⟨⟨body, behind⟩, hbody, hread⟩ := bind_eq_ok_iff.mp hkey
    cases hread
    exact ih.trans ((suffix_of_skipBlanks hcolon).trans (stringBody_suffix hbody))
  | lastItem _ hclosed ih | lastMember _ hclosed ih =>
    exact (suffix_of_skipBlanks hclosed).trans ih
  | moreItems _ hcomma _ ih ihothers =>
    exact ihothers.trans ((skipBlanks_suffix _).trans
      ((suffix_of_skipBlanks hcomma).trans ih))
  | moreMembers _ hcomma hquote _ ih ihothers =>
    exact ihothers.trans ((suffix_of_skipBlanks hquote).trans
      ((suffix_of_skipBlanks hcomma).trans ih))

/-- What follows a value in a text: behind blanks, a comma, the end of a container or
the end of the text. -/
def Closed (rest : List Char) : Prop :=
  ∀ c ∈ (skipBlanks rest).head?, c = ',' ∨ c = ']' ∨ c = '\x7d'

theorem closed_of_skipBlanks {rest behind : List Char} {c : Char}
    (h : skipBlanks rest = c :: behind) (hc : c = ',' ∨ c = ']' ∨ c = '\x7d') :
    Closed rest := by
  simpa [Closed, h] using hc

theorem numberEnds_of_closed {rest : List Char} (h : Closed rest) : NumberEnds rest := by
  cases rest with
  | nil => exact numberEnds_nil
  | cons c behind =>
    intro d hd
    cases hd
    cases hblank : isBlank c with
    | true =>
      simp only [isBlank, Bool.or_eq_true, decide_eq_true_eq] at hblank
      rcases hblank with ((rfl | rfl) | rfl) | rfl <;> decide
    | false =>
      rw [Closed, skipBlanks_cons hblank] at h
      rcases h c rfl with rfl | rfl | rfl <;> decide

/-- A value that is written somewhere in a text. -/
def Within (text : List Char) (written : Written) : Prop :=
  ∃ start rest, start <:+ text ∧ Stands (.value written) start rest ∧ Closed rest

theorem within_of_isText {written : Written} {text : String}
    (h : written.IsText text) : Within text.toList written := by
  obtain ⟨rest, hstands, hblank⟩ := h
  exact ⟨_, rest, List.suffix_rfl, hstands, by simp [Closed, hblank]⟩

section Parts

variable {text start rest : List Char}

theorem within_of_mem_items {items : List Written} {item : Written}
    (hstart : start <:+ text) (h : Stands (.items items) start rest)
    (hmember : item ∈ items) : Within text item := by
  induction items generalizing start with
  | nil => cases hmember
  | cons first others ih =>
    cases h with
    | lastItem hfirst hclosed =>
      obtain rfl := List.mem_singleton.mp hmember
      exact ⟨_, _, hstart, hfirst, closed_of_skipBlanks hclosed (by simp)⟩
    | moreItems hfirst hcomma hothers =>
      rcases List.mem_cons.mp hmember with rfl | hmember
      · exact ⟨_, _, hstart, hfirst, closed_of_skipBlanks hcomma (by simp)⟩
      · refine ih ?_ hothers hmember
        exact (skipBlanks_suffix _).trans
          ((suffix_of_skipBlanks hcomma).trans (hfirst.suffix.trans hstart))

theorem within_of_member {member : String × Written} (hstart : start <:+ text)
    (h : Stands (.member member) start rest) (hclosed : Closed rest) :
    Within text member.2 := by
  cases h with
  | member hkey hcolon hitem =>
    obtain ⟨⟨body, behind⟩, hbody, hread⟩ := bind_eq_ok_iff.mp hkey
    cases hread
    exact ⟨_, _, (suffix_of_skipBlanks hcolon).trans
      ((stringBody_suffix hbody).trans hstart), hitem, hclosed⟩

theorem within_of_mem_members {members : List (String × Written)}
    {member : String × Written} (hstart : start <:+ text)
    (h : Stands (.members members) start rest) (hmember : member ∈ members) :
    Within text member.2 := by
  induction members generalizing start with
  | nil => cases hmember
  | cons first others ih =>
    cases h with
    | lastMember hfirst hclosed =>
      obtain rfl := List.mem_singleton.mp hmember
      exact within_of_member hstart hfirst (closed_of_skipBlanks hclosed (by simp))
    | moreMembers hfirst hcomma hquote hothers =>
      rcases List.mem_cons.mp hmember with rfl | hmember
      · exact within_of_member hstart hfirst (closed_of_skipBlanks hcomma (by simp))
      · refine ih ?_ hothers hmember
        exact (suffix_of_skipBlanks hquote).trans
          ((suffix_of_skipBlanks hcomma).trans (hfirst.suffix.trans hstart))

theorem within_item? {array item : Written} {index : Nat} (h : Within text array)
    (hitem : array.item? index = some item) : Within text item := by
  obtain ⟨start, rest, hstart, hstands, _⟩ := h
  cases hstands with
  | scalar | emptyObject | object => cases hitem
  | emptyArray => cases hitem
  | array hopened hitems =>
    refine within_of_mem_items ?_ hitems (List.mem_of_getElem? hitem)
    exact (skipBlanks_suffix _).trans ((suffix_of_skipBlanks hopened).trans hstart)

theorem within_member? {object item : Written} {key : String} (h : Within text object)
    (hitem : object.member? key = some item) : Within text item := by
  obtain ⟨start, rest, hstart, hstands, _⟩ := h
  cases hstands with
  | scalar | emptyArray | array => cases hitem
  | emptyObject => cases hitem
  | object hopened hquote hmembers =>
    have hmember := List.mem_reverse.mp (mem_of_lookup hitem)
    refine within_of_mem_members ?_ hmembers hmember
    exact (suffix_of_skipBlanks hquote).trans
      ((suffix_of_skipBlanks hopened).trans hstart)

theorem items?_of_scalarRead {value : Json} (h : ScalarRead text value rest) :
    value.items? = none ∧ ∀ key, value.member? key = none := by
  cases h <;> exact ⟨rfl, fun _ => rfl⟩

theorem lookup_memberValues (members : List (String × Written)) (key : String) :
    (Written.memberValues members).reverse.lookup key =
      (members.reverse.lookup key).map Written.value := by
  rw [Written.memberValues_eq_map, ← List.map_reverse]
  induction members.reverse with
  | nil => rfl
  | cons member others ih =>
    rw [List.map_cons, lookup_cons_eq, lookup_cons_eq, ih]
    split <;> rfl

/-- The members and the items of what is written are written themselves. -/
theorem value_parts {written : Written} (h : Within text written) :
    (∀ key, written.value.member? key = (written.member? key).map Written.value) ∧
      ∀ items, written.value = .array items →
        ∀ index, items[index]? = (written.item? index).map Written.value := by
  obtain ⟨_, _, _, hstands, _⟩ := h
  cases hstands with
  | scalar hread =>
    obtain ⟨hitems, hmembers⟩ := items?_of_scalarRead (scalarRead_of_scalar hread)
    refine ⟨hmembers, fun items hvalue => ?_⟩
    rw [Written.value] at hvalue
    rw [hvalue] at hitems
    cases hitems
  | emptyArray | array =>
    rw [Written.value]
    refine ⟨fun _ => rfl, fun items hvalue index => ?_⟩
    cases hvalue
    rw [Written.itemValues_eq_map, List.getElem?_map]
    rfl
  | emptyObject | object =>
    rw [Written.value]
    refine ⟨fun key => ?_, fun items hvalue => ?_⟩
    · rw [member?_ofMembers, lookup_memberValues, Written.member?]
    · cases hvalue

/-- Numbers are scalars. -/
theorem eq_scalar_of_value {written : Written} {number : JsonNumber}
    (h : written.value = .number number) :
    ∃ spelling, written = .scalar spelling (.number number) := by
  cases written with
  | scalar spelling value =>
    rw [Written.value] at h
    exact ⟨spelling, by rw [h]⟩
  | array items =>
    rw [Written.value] at h
    cases h
  | object members =>
    rw [Written.value, ofMembers] at h
    cases h

/-- A number is spelled by characters of numbers, up to where these end, and is what
they are read as. -/
theorem spells_of_within {spelling : List Char} {number : JsonNumber}
    (h : Within text (.scalar spelling (.number number))) :
    (∃ front behind, text = front ++ spelling ++ behind ∧ NumberEnds behind) ∧
      (∀ c ∈ spelling, isNumeral c = true) ∧ Spells spelling number := by
  obtain ⟨start, rest, hstart, hstands, hclosed⟩ := h
  have hends := numberEnds_of_closed hclosed
  cases hstands with
  | scalar hread hspelling =>
    obtain ⟨digits, htext, hdigits, hspells⟩ :=
      spells_of_scalarRead hends (scalarRead_of_scalar hread)
    cases List.append_cancel_right (hspelling.symm.trans htext)
    obtain ⟨front, hfront⟩ := (skipBlanks_suffix start).trans hstart
    refine ⟨⟨front, rest, ?_, hends⟩, hdigits, hspells⟩
    rw [List.append_assoc, ← hspelling, hfront]

end Parts

end Compliance.Json
