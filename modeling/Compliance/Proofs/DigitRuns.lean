import Compliance.Json.Printer
import Compliance.Json.Numeric

/-!
Runs of digits. The reader gathers digits into a value as long as it stays within a
limit, and passes over the others. Digits without a zero in front are the digits of
their value. A number begins with such a run, or with a zero that stands alone.
-/

namespace Compliance.Json

open Numeral

/-- A text that does not begin with a digit. -/
def NoDigit (text : List Char) : Prop := ∀ c ∈ text.head?, c.isDigit = false

theorem noDigit_nil : NoDigit [] := by simp [NoDigit]

theorem noDigit_cons {c : Char} (h : c.isDigit = false) (others : List Char) :
    NoDigit (c :: others) := by
  simpa [NoDigit] using h

/-! ## Gathering digits -/

section Gathering

variable (limit value count : Nat) {rest : List Char}

theorem gather_append (h : NoDigit rest) (text : List Char) :
    gather limit value count (text ++ rest) =
      ((gather limit value count text).1, (gather limit value count text).2.1,
        (gather limit value count text).2.2 ++ rest) := by
  induction text generalizing value count with
  | nil =>
    cases rest with
    | nil => rfl
    | cons c behind => simp [gather, h c rfl]
  | cons c others ih =>
    rw [List.cons_append, gather, gather]
    split
    · exact ih _ _
    · rfl

theorem gather_suffix (text : List Char) :
    (gather limit value count text).2.2 <:+ text := by
  induction text generalizing value count with
  | nil => exact List.suffix_rfl
  | cons c others ih =>
    rw [gather]
    split
    · exact (ih _ _).trans (List.suffix_cons c others)
    · exact List.suffix_rfl

/-- What is gathered is the value of the digits that went into it. -/
theorem gather_spec {limit value : Nat} (h : value ≤ limit) (text : List Char) :
    ∃ digits, (∀ c ∈ digits, c.isDigit = true) ∧
      text = digits ++ (gather limit value count text).2.2 ∧
      (gather limit value count text).1 = Nat.ofDigitChars 10 digits value ∧
      (gather limit value count text).1 ≤ limit := by
  induction text generalizing value count with
  | nil => exact ⟨[], by simp, rfl, rfl, h⟩
  | cons c others ih =>
    rw [gather]
    split
    · next hc =>
      obtain ⟨digits, hdigits, htext, hvalue, hlimit⟩ := ih (count + 1) hc.2
      refine ⟨c :: digits, ?_, ?_, ?_, hlimit⟩
      · simpa using ⟨hc.1, hdigits⟩
      · rw [List.cons_append, ← htext]
      · rw [hvalue, Nat.ofDigitChars_cons, digitValue, Nat.mul_comm]
    · exact ⟨[], by simp, rfl, rfl, h⟩

theorem skipDigits_append (h : NoDigit rest) (text : List Char) :
    skipDigits (text ++ rest) = ((skipDigits text).1, (skipDigits text).2 ++ rest) := by
  induction text with
  | nil =>
    cases rest with
    | nil => rfl
    | cons c behind => simp [skipDigits, h c rfl]
  | cons c others ih =>
    simp only [skipDigits, Prod.mk.injEq, List.cons_append] at ih ⊢
    cases hc : c.isDigit with
    | false => simp [hc]
    | true => simp [hc, ih.1, ih.2]

theorem skipDigits_suffix (text : List Char) : (skipDigits text).2 <:+ text :=
  List.dropWhile_suffix _

theorem skipDigits_of_noDigit (h : NoDigit rest) :
    skipDigits rest = (0, rest) := by
  cases rest with
  | nil => rfl
  | cons c behind => simp [skipDigits, h c rfl]

/-- If no digit was skipped none was there. -/
theorem skipDigits_none {text : List Char} (h : (skipDigits text).1 = 0) :
    (skipDigits text).2 = text ∧ NoDigit text := by
  cases text with
  | nil => exact ⟨rfl, noDigit_nil⟩
  | cons c others =>
    cases hc : c.isDigit with
    | false => exact ⟨by simp [skipDigits, hc], noDigit_cons hc others⟩
    | true => simp [skipDigits, hc] at h

end Gathering

theorem digits_value_le (digits : List Char) (value : Nat) :
    value ≤ Nat.ofDigitChars 10 digits value := by
  induction digits generalizing value with
  | nil => simp
  | cons c others ih =>
    rw [Nat.ofDigitChars_cons]
    have hrest := ih (10 * value + (c.toNat - '0'.toNat))
    omega

/-- All digits of a number within the limit are gathered. -/
theorem gather_digits {limit : Nat} {digits rest : List Char} (value count : Nat)
    (hdigits : ∀ c ∈ digits, c.isDigit = true) (hrest : NoDigit rest)
    (hlimit : Nat.ofDigitChars 10 digits value ≤ limit) :
    gather limit value count (digits ++ rest) =
      (Nat.ofDigitChars 10 digits value, count + digits.length, rest) := by
  induction digits generalizing value count with
  | nil =>
    cases rest with
    | nil => rfl
    | cons c behind => simp [gather, hrest c rfl]
  | cons c others ih =>
    rw [Nat.ofDigitChars_cons, Nat.mul_comm] at hlimit ⊢
    have hfits : value * 10 + digitValue c ≤ limit :=
      Nat.le_trans (digits_value_le others _) hlimit
    have hdigit : c.isDigit = true := hdigits c (by simp)
    have hothers := ih (value * 10 + digitValue c) (count + 1)
      (fun d hd => hdigits d (List.mem_cons_of_mem c hd)) hlimit
    rw [List.cons_append, gather, if_pos ⟨hdigit, hfits⟩, hothers, digitValue,
      List.length_cons, Nat.add_assoc, Nat.add_comm 1]

/-! ## The digits of a value -/

theorem digitChar_digitValue {c : Char} (h : c.isDigit = true) :
    digitValue c < 10 ∧ (digitValue c).digitChar = c := by
  simp only [Char.isDigit, Bool.and_eq_true, decide_eq_true_eq] at h
  have hrange : '0'.toNat ≤ c.toNat ∧ c.toNat ≤ '9'.toNat := h
  have hall : ∀ d : Fin 10, Nat.digitChar d = Char.ofNat ('0'.toNat + d) := by decide
  have hsmall : digitValue c < 10 := by
    have : '9'.toNat = '0'.toNat + 9 := by decide
    simp only [digitValue]
    omega
  have hsum : '0'.toNat + digitValue c = c.toNat := by
    simp only [digitValue]
    omega
  refine ⟨hsmall, ?_⟩
  have hchar := hall ⟨digitValue c, hsmall⟩
  rw [hsum, Char.ofNat_toNat] at hchar
  exact hchar

/-- More digits behind those of a number other than zero. -/
theorem digitsOf_ofDigitChars {digits : List Char} {value : Nat} (hvalue : 0 < value)
    (hdigits : ∀ c ∈ digits, c.isDigit = true) :
    digitsOf (Nat.ofDigitChars 10 digits value) = digitsOf value ++ digits := by
  induction digits generalizing value with
  | nil => simp
  | cons c others ih =>
    obtain ⟨hsmall, hchar⟩ := digitChar_digitValue (hdigits c List.mem_cons_self)
    have hone : digitsOf (10 * value + digitValue c) = digitsOf value ++ [c] := by
      rw [digitsOf, ← Nat.toDigits_append_toDigits (by decide) hvalue hsmall,
        Nat.toDigits_of_lt_base hsmall, hchar, digitsOf]
    rw [Nat.ofDigitChars_cons, ← digitValue, ih (by omega)
      fun d hd => hdigits d (List.mem_cons_of_mem c hd), hone, List.append_assoc,
      List.singleton_append]

/-- Digits without a zero in front are the digits of their value. -/
theorem digitsOf_value {digits : List Char} {c : Char} (hzero : c ≠ '0')
    (hc : c.isDigit = true)
    (hdigits : ∀ d ∈ digits, d.isDigit = true) :
    digitsOf (Nat.ofDigitChars 10 (c :: digits) 0) = c :: digits := by
  obtain ⟨hsmall, hchar⟩ := digitChar_digitValue hc
  have hpos : 0 < digitValue c := by
    refine Nat.pos_of_ne_zero fun hnone => hzero ?_
    rw [← hchar, hnone]
    rfl
  rw [Nat.ofDigitChars_cons, Nat.mul_zero, Nat.zero_add, ← digitValue,
    digitsOf_ofDigitChars hpos hdigits, digitsOf, Nat.toDigits_of_lt_base hsmall, hchar,
    List.singleton_append]

/-- Only zero is written with a zero in front. -/
theorem digitsOf_head {value : Nat} (h : value ≠ 0) :
    ∃ c rest, digitsOf value = c :: rest ∧ c ≠ '0' := by
  induction value using Nat.strongRecOn with
  | _ value ih =>
    unfold digitsOf
    by_cases hsmall : value < 10
    · refine ⟨value.digitChar, [], Nat.toDigits_of_lt_base hsmall, ?_⟩
      have hall : ∀ d : Fin 10, d.val ≠ 0 → Nat.digitChar d ≠ '0' := by decide
      exact hall ⟨value, hsmall⟩ h
    · obtain ⟨c, rest, hdigits, hc⟩ := ih (value / 10) (by omega) (by omega)
      rw [Nat.toDigits_of_base_le (by decide) (by omega)]
      refine ⟨c, rest ++ [(value % 10).digitChar], ?_, hc⟩
      rw [← digitsOf, hdigits, List.cons_append]

theorem isDigit_of_mem_digitsOf {value : Nat} {c : Char} (h : c ∈ digitsOf value) :
    c.isDigit = true :=
  Nat.isDigit_of_mem_toDigits (by decide) (by decide) h

theorem digitsOf_eq_cons (value : Nat) :
    ∃ c rest, digitsOf value = c :: rest ∧ c.isDigit = true := by
  have hne : Nat.toDigits 10 value ≠ [] := Nat.toDigits_ne_nil
  obtain ⟨c, rest, hdigits⟩ := List.exists_cons_of_ne_nil hne
  have hmember : c ∈ digitsOf value := by simp [digitsOf, hdigits]
  exact ⟨c, rest, hdigits, isDigit_of_mem_digitsOf hmember⟩

/-! ## The beginning of a number -/

section Beginning

variable (negative : Bool) (significand : Nat)

theorem integerOf_negative {magnitude : Nat} (hpos : magnitude ≠ 0)
    (hfits : magnitude ≤ twoTo 63) :
    integerOf true magnitude = fun rest => .ok (.integer (-magnitude), rest) := by
  funext rest
  rw [integerOf, if_neg (by decide), if_pos ⟨hpos, hfits⟩]

theorem integerOf_beyond {magnitude : Nat}
    (h : ¬(magnitude ≠ 0 ∧ magnitude ≤ twoTo 63)) :
    integerOf true magnitude = doubleOf true magnitude 0 := by
  funext rest
  rw [integerOf, if_neg (by decide), if_neg h]

theorem numberTail_plain (dropped : Nat) {text : List Char}
    (h : ∀ c ∈ text.head?, c ≠ '.' ∧ c ≠ 'e' ∧ c ≠ 'E') :
    numberTail negative significand dropped text =
      plainTail negative significand dropped text := by
  unfold numberTail
  split
  · exact absurd rfl (h _ rfl).1
  · exact absurd rfl (h _ rfl).2.1
  · exact absurd rfl (h _ rfl).2.2
  · rfl

theorem unsignedNumber_zero {behind : List Char} (h : NoDigit behind) :
    unsignedNumber negative ('0' :: behind) = numberTail negative 0 0 behind := by
  cases behind with
  | nil => rfl
  | cons c others =>
    have hc : c.isDigit = false := h c rfl
    simp only [unsignedNumber, hc, Bool.false_eq_true, if_false]

theorem unsignedNumber_digits {c : Char} (hzero : c ≠ '0') (hc : c.isDigit = true)
    (others : List Char) :
    unsignedNumber negative (c :: others) =
      numberTail negative (gather maxSignificand 0 0 (c :: others)).1
        (skipDigits (gather maxSignificand 0 0 (c :: others)).2.2).1
        (skipDigits (gather maxSignificand 0 0 (c :: others)).2.2).2 := by
  unfold unsignedNumber
  split
  · next h => cases h
  · next h => cases h; exact absurd rfl hzero
  · next h =>
    cases h
    simp only [hc, Bool.not_true, Bool.false_eq_true, if_false]

end Beginning

end Compliance.Json
