import Compliance.Json.Reader
import Compliance.Proofs.DigitRuns
import Compliance.Proofs.JsonMembers

/-!
Compact JSON texts and the reader. A value without doubles is what the reader
makes of its compact text, whatever follows that text, as long as its integers
fit 64 bits, the keys of its objects ascend, and it is nested no deeper than the
reader goes. No compact text holds a line feed.
-/

namespace Compliance.Json

open Numeral

/-- Values that are read back from their compact text by a reader that goes
`depth` containers deep. -/
inductive Readable : Nat → Json → Prop
  | null (depth : Nat) : Readable depth .null
  | boolean (depth : Nat) (value : Bool) : Readable depth (.boolean value)
  | natural (depth value : Nat) (h : value ≤ maxSignificand) :
      Readable depth (.number (.integer value))
  | negative (depth magnitude : Nat) (hpos : magnitude ≠ 0)
      (hfits : magnitude ≤ twoTo 63) :
      Readable depth (.number (.integer (-magnitude)))
  | string (depth : Nat) (text : String) : Readable depth (.string text)
  | array (depth : Nat) (items : List Json)
      (hitems : ∀ item ∈ items, Readable depth item) :
      Readable (depth + 1) (.array items)
  | object (depth : Nat) (members : List (String × Json))
      (hascending : (members.map Prod.fst).Pairwise (· < ·))
      (hmembers : ∀ member ∈ members, Readable depth member.2) :
      Readable (depth + 1) (.object members)

/-- What may follow a value inside a compact text, or behind all of it. -/
def Ends (rest : List Char) : Prop :=
  ∀ c ∈ rest.head?, c = ',' ∨ c = ']' ∨ c = '\x7d'

/-- A parser takes the compact text of a value off the front of a text. -/
def Takes (item : Parser Json) (value : Json) : Prop :=
  ∀ rest, Ends rest → item (value.chars ++ rest) = .ok (value, rest)

theorem ends_nil : Ends [] := by simp [Ends]

theorem ends_cons {c : Char} (rest : List Char)
    (h : c = ',' ∨ c = ']' ∨ c = '\x7d') : Ends (c :: rest) := by
  simpa [Ends] using h

theorem ends_itemsChars (items : List Json) (rest : List Char) :
    Ends (itemsChars items ++ rest) := by
  cases items with
  | nil => exact ends_cons _ (by simp)
  | cons item others => exact ends_cons _ (by simp)

theorem ends_membersChars (members : List (String × Json)) (rest : List Char) :
    Ends (membersChars members ++ rest) := by
  cases members with
  | nil => exact ends_cons _ (by simp)
  | cons member others => exact ends_cons _ (by simp)

/-! ## Strings -/

theorem hexValue?_digitChar {digit : Nat} (h : digit < 16) :
    hexValue? digit.digitChar = some digit := by
  have hall : ∀ d : Fin 16, hexValue? (Nat.digitChar d) = some d.val := by decide
  exact hall ⟨digit, h⟩

theorem escaped_numeric {unit : Nat} (h : unit < 0x20) (rest : List Char) :
    escaped ('u' :: '0' :: '0' :: (unit / 16).digitChar ::
      (unit % 16).digitChar :: rest) = .ok (Char.ofNat unit, 5) := by
  have hzero : hexValue? '0' = some 0 := by decide
  have hhigh := hexValue?_digitChar (show unit / 16 < 16 by omega)
  have hlow := hexValue?_digitChar (show unit % 16 < 16 by omega)
  have hquad : hexQuad ('0' :: '0' :: (unit / 16).digitChar ::
      (unit % 16).digitChar :: rest) = .ok unit := by
    have hunit : unit / 16 * 16 + unit % 16 = unit := by omega
    simp [hexQuad, hexQuad?, hzero, hhigh, hlow, hunit]
  have hlowSurrogate : isLowSurrogate unit = false := by
    simp [isLowSurrogate]; omega
  have hhighSurrogate : isHighSurrogate unit = false := by
    simp [isHighSurrogate]; omega
  simp [escaped, numericEscape, hquad, hlowSurrogate, hhighSurrogate, bind,
    Except.bind, pure, Except.pure]

/-- An escape is replaced by the character it stands for, and reading goes on
behind it. -/
theorem stringBody_escape {c : Char} {rest : List Char} (escape : List Char)
    (h : escaped (escape ++ rest) = .ok (c, escape.length)) :
    stringBody 0 ('\\' :: (escape ++ rest)) =
      (stringBody 0 rest).map fun read => (c :: read.1, read.2) := by
  have hskip : ∀ passed : List Char,
      stringBody passed.length (passed ++ rest) = stringBody 0 rest := by
    intro passed
    induction passed with
    | nil => rfl
    | cons d others ih => simpa [stringBody] using ih
  simp only [stringBody, Char.reduceEq, if_false, if_true, h, hskip, bind,
    Except.bind]
  cases stringBody 0 rest <;> rfl

theorem stringBody_plain {c : Char} (hquote : c ≠ '"') (hescape : c ≠ '\\')
    (hcontrol : ¬c.toNat < 0x20) (rest : List Char) :
    stringBody 0 (c :: rest) =
      (stringBody 0 rest).map fun read => (c :: read.1, read.2) := by
  simp only [stringBody, hquote, hescape, hcontrol, if_false, bind, Except.bind]
  cases stringBody 0 rest <;> rfl

/-- A character is read back from its escaped form. -/
theorem stringBody_escapedChar (c : Char) (rest : List Char) :
    stringBody 0 (escapedChar c ++ rest) =
      (stringBody 0 rest).map fun read => (c :: read.1, read.2) := by
  unfold escapedChar
  split
  · next h => exact h ▸ stringBody_escape ['"'] rfl
  split
  · next h => exact h ▸ stringBody_escape ['\\'] rfl
  split
  · next h => exact h ▸ stringBody_escape ['b'] rfl
  split
  · next h => exact h ▸ stringBody_escape ['f'] rfl
  split
  · next h => exact h ▸ stringBody_escape ['n'] rfl
  split
  · next h => exact h ▸ stringBody_escape ['r'] rfl
  split
  · next h => exact h ▸ stringBody_escape ['t'] rfl
  split
  · next h =>
    have hescaped := escaped_numeric h rest
    rw [Char.ofNat_toNat] at hescaped
    exact stringBody_escape ['u', '0', '0', _, _] hescaped
  · next hquote hescape _ _ _ _ _ hcontrol =>
    exact stringBody_plain hquote hescape hcontrol rest

theorem quotedString_chars (text : String) (rest : List Char) :
    quotedString (text.toList.flatMap escapedChar ++ '"' :: rest) =
      .ok (text, rest) := by
  have hbody : ∀ chars : List Char,
      stringBody 0 (chars.flatMap escapedChar ++ '"' :: rest) = .ok (chars, rest) := by
    intro chars
    induction chars with
    | nil => simp [stringBody]
    | cons c others ih =>
      rw [List.flatMap_cons, List.append_assoc, stringBody_escapedChar, ih]
      rfl
  simp [quotedString, hbody, bind, Except.bind, pure, Except.pure]

/-! ## Integers -/

theorem noDigit_of_ends {rest : List Char} (h : Ends rest) : NoDigit rest := by
  intro c hc
  rcases h c hc with rfl | rfl | rfl <;> decide

theorem numberChars_natural (value : Nat) :
    numberChars (.integer value) = digitsOf value := by
  have hnonneg : ¬(value : Int) < 0 := by omega
  rw [numberChars, integerChars, if_neg hnonneg, Int.natAbs_natCast]

theorem numberChars_negative {magnitude : Nat} (h : magnitude ≠ 0) :
    numberChars (.integer (-magnitude)) = '-' :: digitsOf magnitude := by
  have hneg : (-magnitude : Int) < 0 := by omega
  rw [numberChars, integerChars, if_pos hneg, Int.natAbs_neg, Int.natAbs_natCast]

/-- Where a number ends there is no point and no exponent. -/
theorem numberTail_ends (negative : Bool) (value : Nat) {rest : List Char}
    (h : Ends rest) :
    numberTail negative value 0 rest = integerOf negative value rest := by
  rw [numberTail_plain, plainTail, if_pos rfl]
  intro c hc
  rcases h c hc with rfl | rfl | rfl <;> decide

/-- The digits of a number give its magnitude back. -/
theorem unsignedNumber_digitsOf (negative : Bool) {value : Nat} {rest : List Char}
    (hvalue : value ≤ maxSignificand) (hrest : Ends rest) :
    unsignedNumber negative (digitsOf value ++ rest) =
      integerOf negative value rest := by
  have htail := numberTail_ends negative value hrest
  have hend := noDigit_of_ends hrest
  by_cases hzero : value = 0
  · have hdigits : digitsOf 0 = ['0'] := by decide
    subst hzero
    rw [hdigits, List.singleton_append, unsignedNumber_zero negative hend, htail]
  · obtain ⟨c, digits, hdigits, hc⟩ := digitsOf_head hzero
    have hdigit : c.isDigit = true :=
      isDigit_of_mem_digitsOf (hdigits ▸ List.mem_cons_self)
    have hmagnitude : Nat.ofDigitChars 10 (digitsOf value) 0 = value :=
      Nat.ofDigitChars_ten_toDigits
    have hgather := gather_digits 0 0 (fun d hd => isDigit_of_mem_digitsOf hd) hend
      (hmagnitude ▸ hvalue)
    rw [hmagnitude, hdigits, List.cons_append] at hgather
    rw [hdigits, List.cons_append, unsignedNumber_digits negative hc hdigit, hgather]
    simp only [skipDigits_of_noDigit hend, htail]

/-! ## Values -/

theorem isDigit_plain {c : Char} (h : c.isDigit = true) :
    isBlank c = false ∧ c ≠ ']' ∧ c ≠ '[' ∧ c ≠ '\x7b' := by
  refine ⟨?_, ?_, ?_, ?_⟩
  · simp only [isBlank, Bool.or_eq_false_iff, decide_eq_false_iff_not]
    refine ⟨⟨⟨?_, ?_⟩, ?_⟩, ?_⟩ <;> (rintro rfl; cases h)
  all_goals
    rintro rfl
    cases h

/-- A compact text begins with neither a blank nor a closing bracket. -/
theorem chars_head {depth : Nat} {value : Json} (h : Readable depth value) :
    ∃ c rest, value.chars = c :: rest ∧ isBlank c = false ∧ c ≠ ']' := by
  cases h with
  | null => exact ⟨_, _, rfl, by decide, by decide⟩
  | boolean _ value => cases value <;> exact ⟨_, _, rfl, by decide, by decide⟩
  | natural _ value =>
    obtain ⟨c, rest, hdigits, hc⟩ := digitsOf_eq_cons value
    obtain ⟨hblank, hclosing, _⟩ := isDigit_plain hc
    refine ⟨c, rest, ?_, hblank, hclosing⟩
    rw [chars, numberChars_natural, hdigits]
  | negative _ magnitude hpos =>
    refine ⟨'-', digitsOf magnitude, ?_, by decide, by decide⟩
    rw [chars, numberChars_negative hpos]
  | string => exact ⟨_, _, rfl, by decide, by decide⟩
  | array _ items => cases items <;> exact ⟨_, _, rfl, by decide, by decide⟩
  | object _ members => cases members <;> exact ⟨_, _, rfl, by decide, by decide⟩

theorem skipBlanks_cons {c : Char} (h : isBlank c = false) (rest : List Char) :
    skipBlanks (c :: rest) = c :: rest := by
  simp [skipBlanks, h]

/-- The items of an array are read one after the other. -/
theorem itemsFrom_chars {item : Parser Json} {depth : Nat} {first : Json}
    {others : List Json}
    (hreadable : ∀ value ∈ first :: others, Readable depth value)
    (htakes : ∀ value ∈ first :: others, Takes item value) (rest : List Char)
    {room : Nat} (hroom : others.length < room) :
    itemsFrom item room (first.chars ++ (itemsChars others ++ rest)) =
      .ok (first :: others, rest) := by
  induction others generalizing first room with
  | nil =>
    obtain ⟨left, rfl⟩ : ∃ left, room = left + 1 := ⟨room - 1, by omega⟩
    have hfirst := htakes first (by simp) (itemsChars [] ++ rest)
      (ends_itemsChars [] rest)
    simp only [itemsFrom, hfirst, bind, Except.bind]
    rfl
  | cons second behind ih =>
    obtain ⟨left, rfl⟩ : ∃ left, room = left + 1 := ⟨room - 1, by omega⟩
    have hfirst := htakes first (by simp) (itemsChars (second :: behind) ++ rest)
      (ends_itemsChars _ rest)
    have hothers : itemsFrom item left
        (second.chars ++ (itemsChars behind ++ rest)) = .ok (second :: behind, rest) :=
      ih (fun value hm => hreadable value (List.mem_cons_of_mem first hm))
        (fun value hm => htakes value (List.mem_cons_of_mem first hm))
        (by simpa using hroom)
    obtain ⟨c, text, hchars, hblank, hc⟩ :=
      chars_head (hreadable second (by simp))
    have hnext : second.chars ++ (itemsChars behind ++ rest) =
        c :: (text ++ (itemsChars behind ++ rest)) := by rw [hchars, List.cons_append]
    rw [hnext] at hothers
    have hcomma : itemsChars (second :: behind) ++ rest =
        ',' :: c :: (text ++ (itemsChars behind ++ rest)) := by
      rw [itemsChars, List.cons_append, List.append_assoc, hnext]
    rw [hcomma] at hfirst ⊢
    simp only [itemsFrom, hfirst, bind, Except.bind]
    rw [skipBlanks_cons (by decide)]
    simp only [skipBlanks_cons hblank]
    split
    · next h => cases h
    · next h => cases h; exact absurd rfl hc
    · rw [hothers]
      rfl

theorem length_lt_itemsChars (items : List Json) :
    items.length < (itemsChars items).length := by
  induction items with
  | nil => simp [itemsChars]
  | cons item others ih =>
    simp only [itemsChars, List.length_cons, List.length_append]
    omega

theorem arrayBody_chars {item : Parser Json} {depth : Nat} {first : Json}
    {others : List Json}
    (hreadable : ∀ value ∈ first :: others, Readable depth value)
    (htakes : ∀ value ∈ first :: others, Takes item value) (rest : List Char) :
    arrayBody item (first.chars ++ (itemsChars others ++ rest)) =
      .ok (array (first :: others), rest) := by
  have hroom : others.length <
      (first.chars ++ (itemsChars others ++ rest)).length + 1 := by
    have hlength := length_lt_itemsChars others
    simp only [List.length_append]
    omega
  have hitems := itemsFrom_chars hreadable htakes rest hroom
  obtain ⟨c, text, hchars, hblank, hc⟩ := chars_head (hreadable first (by simp))
  rw [hchars, List.cons_append] at hitems ⊢
  unfold arrayBody
  rw [skipBlanks_cons hblank]
  split
  · next h => cases h
  · next h => cases h; exact absurd rfl hc
  · simp only [hitems, bind, Except.bind]
    rfl

/-- A member behind the opening quote of its key, and what follows it. -/
def memberChars (member : String × Json) (rest : List Char) : List Char :=
  member.1.toList.flatMap escapedChar ++ '"' :: ':' :: (member.2.chars ++ rest)

theorem member_memberChars {item : Parser Json} {first : String × Json}
    (h : Takes item first.2) {rest : List Char} (hrest : Ends rest) :
    member item (memberChars first rest) = .ok (first, rest) := by
  have hvalue := h rest hrest
  simp only [member, memberChars, quotedString_chars, bind, Except.bind]
  rw [skipBlanks_cons (by decide)]
  simp only [hvalue]
  rfl

theorem membersChars_cons (first : String × Json) (others : List (String × Json))
    (rest : List Char) :
    membersChars (first :: others) ++ rest =
      ',' :: '"' :: memberChars first (membersChars others ++ rest) := by
  simp [membersChars, stringChars, memberChars]

theorem object_chars_cons (first : String × Json) (others : List (String × Json))
    (rest : List Char) :
    (object (first :: others)).chars ++ rest =
      '\x7b' :: '"' :: memberChars first (membersChars others ++ rest) := by
  simp [chars, stringChars, memberChars]

/-- The members of an object are read one after the other. -/
theorem membersFrom_chars {item : Parser Json} {first : String × Json}
    {others : List (String × Json)}
    (htakes : ∀ member ∈ first :: others, Takes item member.2) (rest : List Char)
    {room : Nat} (hroom : others.length < room) :
    membersFrom item room (memberChars first (membersChars others ++ rest)) =
      .ok (first :: others, rest) := by
  induction others generalizing first room with
  | nil =>
    obtain ⟨left, rfl⟩ : ∃ left, room = left + 1 := ⟨room - 1, by omega⟩
    have hfirst := member_memberChars (htakes first (by simp))
      (ends_membersChars [] rest)
    simp only [membersFrom, hfirst, bind, Except.bind]
    rfl
  | cons second behind ih =>
    obtain ⟨left, rfl⟩ : ∃ left, room = left + 1 := ⟨room - 1, by omega⟩
    have hfirst := member_memberChars (htakes first (by simp))
      (ends_membersChars (second :: behind) rest)
    have hothers : membersFrom item left
        (memberChars second (membersChars behind ++ rest)) =
          .ok (second :: behind, rest) :=
      ih (fun member hm => htakes member (List.mem_cons_of_mem first hm))
        (by simpa using hroom)
    rw [membersChars_cons] at hfirst ⊢
    simp only [membersFrom, hfirst, bind, Except.bind]
    rw [skipBlanks_cons (by decide)]
    simp only [skipBlanks_cons (show isBlank '"' = false by decide), hothers]
    rfl

theorem length_lt_membersChars (members : List (String × Json)) :
    members.length < (membersChars members).length := by
  induction members with
  | nil => simp [membersChars]
  | cons member others ih =>
    simp only [membersChars, List.length_cons, List.length_append]
    omega

theorem objectBody_chars {item : Parser Json} {first : String × Json}
    {others : List (String × Json)}
    (hascending : ((first :: others).map Prod.fst).Pairwise (· < ·))
    (htakes : ∀ member ∈ first :: others, Takes item member.2) (rest : List Char) :
    objectBody item ('"' :: memberChars first (membersChars others ++ rest)) =
      .ok (object (first :: others), rest) := by
  have hroom : others.length <
      (memberChars first (membersChars others ++ rest)).length + 1 := by
    have hlength := length_lt_membersChars others
    simp only [memberChars, List.length_append, List.length_cons]
    omega
  have hmembers := membersFrom_chars htakes rest hroom
  unfold objectBody
  rw [skipBlanks_cons (by decide)]
  simp only [hmembers, bind, Except.bind]
  rw [ofMembers_ascending hascending]
  rfl

/-- What begins like a scalar is read as one. -/
theorem value_scalar {c : Char} (depth : Nat) (hblank : isBlank c = false)
    (harray : c ≠ '[') (hobject : c ≠ '\x7b') (rest : List Char) :
    Json.value depth (c :: rest) = scalar (c :: rest) := by
  unfold Json.value
  rw [skipBlanks_cons hblank]
  split
  · next h => cases h; exact absurd rfl harray
  · next h => cases h; exact absurd rfl hobject
  · rfl

theorem takes_literal (depth : Nat) {value : Json}
    (h : value = .null ∨ ∃ truth, value = .boolean truth) :
    Takes (Json.value depth) value := by
  intro rest _
  rcases h with rfl | ⟨_ | _, rfl⟩ <;>
  · simp only [chars, List.cons_append, List.nil_append]
    rw [value_scalar depth (by decide) (by decide) (by decide)]
    rfl

theorem takes_string (depth : Nat) (text : String) :
    Takes (Json.value depth) (.string text) := by
  intro rest _
  rw [chars, stringChars, List.cons_append, List.append_assoc, List.singleton_append,
    value_scalar depth (by decide) (by decide) (by decide), scalar,
    quotedString_chars]
  rfl

theorem scalar_digit {c : Char} (h : c.isDigit = true) (others : List Char) :
    scalar (c :: others) =
      (unsignedNumber false (c :: others)).map fun (value, rest) =>
        (number value, rest) := by
  unfold scalar
  split
  · next heq => cases heq
  · next heq => cases heq; cases h
  · next heq => cases heq; cases h
  · next heq => cases heq; cases h
  · next heq => cases heq; cases h
  · next heq => cases heq; cases h
  · next heq =>
    cases heq
    rw [if_pos h]

theorem takes_integer {depth : Nat} {value : Int}
    (h : Readable depth (.number (.integer value))) :
    Takes (Json.value depth) (.number (.integer value)) := by
  intro rest hrest
  cases h with
  | natural _ value hfits =>
    have hread := unsignedNumber_digitsOf false hfits hrest
    obtain ⟨c, digits, hdigits, hc⟩ := digitsOf_eq_cons value
    obtain ⟨hblank, _, harray, hobject⟩ := isDigit_plain hc
    rw [chars, numberChars_natural]
    rw [hdigits, List.cons_append] at hread ⊢
    rw [value_scalar depth hblank harray hobject, scalar_digit hc, hread]
    rfl
  | negative _ magnitude hpos hfits =>
    have hbound : magnitude ≤ maxSignificand := Nat.le_trans hfits (by decide)
    have hread := unsignedNumber_digitsOf true hbound hrest
    rw [chars, numberChars_negative hpos, List.cons_append,
      value_scalar depth (by decide) (by decide) (by decide), scalar, hread,
      integerOf_negative hpos hfits]
    rfl

/-- A readable value is taken off the front of any text that begins with its
compact text. -/
theorem takes_of_readable {depth : Nat} {value : Json} (h : Readable depth value) :
    Takes (Json.value depth) value := by
  induction h with
  | null depth => exact takes_literal depth (.inl rfl)
  | boolean depth value => exact takes_literal depth (.inr ⟨value, rfl⟩)
  | natural depth value h => exact takes_integer (.natural depth value h)
  | negative depth magnitude hpos hfits =>
    exact takes_integer (.negative depth magnitude hpos hfits)
  | string depth text => exact takes_string depth text
  | array depth items hitems ih =>
    intro rest hrest
    unfold Json.value
    cases items with
    | nil =>
      simp only [chars, List.cons_append, List.nil_append]
      rw [skipBlanks_cons (by decide)]
      rfl
    | cons first others =>
      rw [chars, List.cons_append, List.append_assoc, skipBlanks_cons (by decide)]
      exact arrayBody_chars hitems ih rest
  | object depth members hascending hmembers ih =>
    intro rest hrest
    unfold Json.value
    cases members with
    | nil =>
      simp only [chars, List.cons_append, List.nil_append]
      rw [skipBlanks_cons (by decide)]
      rfl
    | cons first others =>
      have hbody := objectBody_chars hascending ih rest
      rw [object_chars_cons, skipBlanks_cons (by decide)]
      exact hbody

/-- Printing a readable value and reading the text gives the value back. -/
theorem read_text {value : Json} (h : Readable maxDepth value) :
    read value.text = .ok value := by
  have hvalue := takes_of_readable h [] ends_nil
  rw [List.append_nil] at hvalue
  simp only [read, text, String.toList_ofList, document, hvalue, bind, Except.bind]
  rfl

/-! ## Objects from members in any order -/

theorem readable_ofMembers {depth : Nat} {members : List (String × Json)}
    (h : ∀ member ∈ members, Readable depth member.2) :
    Readable (depth + 1) (ofMembers members) := by
  obtain ⟨kept, hkept, hascending, hmembers⟩ := ofMembers_eq_object members
  rw [hkept]
  exact .object depth kept hascending fun member hm => h member (hmembers member hm)

theorem readable_strings (depth : Nat) (texts : List String) :
    Readable (depth + 1) (strings texts) := by
  refine .array depth _ fun item hm => ?_
  obtain ⟨text, _, rfl⟩ := List.mem_map.mp hm
  exact .string depth text

end Compliance.Json
