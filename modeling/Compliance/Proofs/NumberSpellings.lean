import Compliance.Proofs.CompactText
import Compliance.Proofs.NumberEnds
import Compliance.Proofs.ReaderSteps

/-!
Numbers and how they are spelled. An integer is read from one spelling only, the one
that its compact text has. A number with a point or an exponent, and an integer beyond
64 bits, is a double, and of its spellings at most one is its compact text.
-/

namespace Compliance.Json

open Numeral

/-! ## Integers -/

/-- Integers that fit 64 bits, signed or not. -/
structure Fits (value : Int) : Prop where
  lower : -(twoTo 63 : Int) ≤ value
  upper : value ≤ maxSignificand

/-- A reader of what is no integer. -/
def NoInteger (parser : Parser JsonNumber) : Prop :=
  ∀ {text rest : List Char} {value : Int}, parser text ≠ .ok (.integer value, rest)

section NoInteger

variable (negative : Bool) (significand : Nat)

theorem noInteger_signed (outcome : Option Binary64) :
    NoInteger (signed negative outcome) := by
  intro text rest value h
  cases outcome <;> cases h

theorem noInteger_doubleOf (exponent : Int) :
    NoInteger (doubleOf negative significand exponent) :=
  noInteger_signed negative _

theorem noInteger_exponentDigits (start : Int) (downwards : Bool) :
    NoInteger (exponentDigits negative significand start downwards) := by
  intro text rest value h
  unfold exponentDigits at h
  split at h
  · cases h
  split at h
  · cases h
  dsimp only at h
  split at h
  · split at h
    · split at h <;> cases h
    · exact noInteger_doubleOf _ _ _ h
  · exact noInteger_doubleOf _ _ _ h

theorem noInteger_exponentPart (start : Int) :
    NoInteger (exponentPart negative significand start) := by
  intro text rest value h
  unfold exponentPart at h
  split at h <;> exact noInteger_exponentDigits _ _ _ _ h

theorem noInteger_doubleTail (exponent : Int) :
    NoInteger (doubleTail negative significand exponent) := by
  intro text rest value h
  unfold doubleTail at h
  split at h
  · exact noInteger_exponentPart _ _ _ h
  · exact noInteger_exponentPart _ _ _ h
  · exact noInteger_doubleOf _ _ _ h

theorem noInteger_fractionPart (dropped : Nat) :
    NoInteger (fractionPart negative significand dropped) := by
  intro text rest value h
  unfold fractionPart at h
  dsimp only at h
  split at h
  · cases h
  · exact noInteger_doubleTail _ _ _ h

end NoInteger

theorem numberTail_eq_integer {negative : Bool} {significand dropped : Nat}
    {text rest : List Char} {value : Int}
    (h : numberTail negative significand dropped text = .ok (.integer value, rest)) :
    dropped = 0 ∧ integerOf negative significand text = .ok (.integer value, rest) := by
  unfold numberTail at h
  split at h
  · exact (noInteger_fractionPart _ _ _ h).elim
  · exact (noInteger_doubleTail _ _ _ h).elim
  · exact (noInteger_doubleTail _ _ _ h).elim
  · unfold plainTail at h
    split at h
    · next hall => exact ⟨hall, h⟩
    · exact (noInteger_doubleOf _ _ _ h).elim

/-- The sign of a number in front of the digits. -/
def signChars (negative : Bool) : List Char := if negative then ['-'] else []

theorem integerOf_eq_integer {negative : Bool} {magnitude : Nat}
    {text rest : List Char} {value : Int} (hbound : magnitude ≤ maxSignificand)
    (h : integerOf negative magnitude text = .ok (.integer value, rest)) :
    Fits value ∧ rest = text ∧
      integerChars value = signChars negative ++ digitsOf magnitude := by
  cases negative with
  | false =>
    cases h
    exact ⟨⟨by omega, by omega⟩, rfl, numberChars_natural magnitude⟩
  | true =>
    by_cases hfits : magnitude ≠ 0 ∧ magnitude ≤ twoTo 63
    · rw [integerOf_negative hfits.1 hfits.2] at h
      cases h
      exact ⟨⟨by omega, by omega⟩, rfl, numberChars_negative hfits.1⟩
    · rw [integerOf_beyond hfits] at h
      exact (noInteger_doubleOf _ _ _ h).elim

/-- An integer is spelled as in its compact text. -/
theorem unsignedNumber_eq_integer {negative : Bool} {text rest : List Char} {value : Int}
    (h : unsignedNumber negative text = .ok (.integer value, rest)) :
    Fits value ∧ signChars negative ++ text = integerChars value ++ rest := by
  have hsome := toOption_eq_some_iff.mpr h
  cases numberStart text with
  | none hnone =>
    rw [unsignedNumber_none negative hnone] at hsome
    cases hsome
  | zeros hc others =>
    rw [unsignedNumber_zeros negative hc] at hsome
    cases hsome
  | zero hbehind =>
    rw [unsignedNumber_zero negative hbehind] at h
    obtain ⟨_, hinteger⟩ := numberTail_eq_integer h
    obtain ⟨hfits, rfl, hchars⟩ := integerOf_eq_integer (Nat.zero_le _) hinteger
    refine ⟨hfits, ?_⟩
    rw [hchars, List.append_assoc]
    rfl
  | digits hzero hc others =>
    rw [unsignedNumber_digits negative hzero hc] at h
    obtain ⟨hdropped, hinteger⟩ := numberTail_eq_integer h
    obtain ⟨digits, hdigits, htext, hvalue, hlimit⟩ :=
      gather_spec 0 (Nat.zero_le maxSignificand) (_ :: others)
    obtain ⟨hbehind, hnext⟩ := skipDigits_none hdropped
    obtain ⟨hfits, rfl, hchars⟩ := integerOf_eq_integer hlimit hinteger
    refine ⟨hfits, ?_⟩
    rw [hbehind, hchars, hvalue]
    cases digits with
    | nil =>
      rw [List.nil_append] at htext
      rw [← htext] at hnext
      cases hc.symm.trans (hnext _ rfl)
    | cons d more =>
      obtain ⟨rfl, hmore⟩ := List.cons.inj htext
      rw [digitsOf_value hzero hc fun e he => hdigits e (List.mem_cons_of_mem _ he),
        List.append_assoc, ← htext]

theorem readable_of_fits {value : Int} (h : Fits value) (depth : Nat) :
    Readable depth (.number (.integer value)) := by
  have hlower := h.lower
  have hupper := h.upper
  cases value with
  | ofNat magnitude => exact .natural depth magnitude (by simpa using hupper)
  | negSucc below =>
    exact .negative depth (below + 1) (by omega) (by omega)

/-! ## Spellings -/

/-- A spelling on its own that is read as a number. -/
def Spells (spelling : List Char) (number : JsonNumber) : Prop :=
  ScalarRead spelling (.number number) []

/-- Of a text with a number in front, the number takes what its characters reach, and
is what they are read as alone. -/
theorem spells_of_scalarRead {text rest : List Char} {number : JsonNumber}
    (hrest : NumberEnds rest) (h : ScalarRead text (.number number) rest) :
    ∃ spelling, text = spelling ++ rest ∧ (∀ c ∈ spelling, isNumeral c = true) ∧
      Spells spelling number := by
  cases h with
  | negative h =>
    obtain ⟨digits, rfl, hdigits, hread⟩ := unsignedNumber_eq_ok hrest h
    refine ⟨'-' :: digits, rfl, ?_, .negative hread⟩
    simpa using ⟨by decide, hdigits⟩
  | natural hdigit h =>
    obtain ⟨spelling, htext, hspelling, hread⟩ := unsignedNumber_eq_ok hrest h
    cases spelling with
    | nil => cases hread
    | cons d digits =>
      obtain ⟨rfl, rfl⟩ := List.cons.inj htext
      exact ⟨_, rfl, hspelling, .natural hdigit hread⟩

theorem read_of_spells {spelling : List Char} {number : JsonNumber}
    (h : Spells spelling number) :
    read (String.ofList spelling) = .ok (.number number) := by
  have hvalue : Json.value maxDepth spelling = .ok (.number number, []) := by
    cases h with
    | negative h =>
      rw [value_scalar _ (by decide) (by decide) (by decide), scalar, h]
      rfl
    | natural hdigit h =>
      obtain ⟨hblank, _, harray, hobject⟩ := isDigit_plain hdigit
      rw [value_scalar _ hblank harray hobject, scalar_digit hdigit, h]
      rfl
  simp only [read, document, String.toList_ofList, hvalue, bind, Except.bind]
  rfl

/-- An integer has one spelling. -/
theorem spells_integer_iff {spelling : List Char} {value : Int} :
    Spells spelling (.integer value) ↔ Fits value ∧ spelling = integerChars value := by
  constructor
  · intro h
    cases h with
    | negative h => simpa [signChars] using unsignedNumber_eq_integer h
    | natural hdigit h => simpa [signChars] using unsignedNumber_eq_integer h
  · rintro ⟨hfits, rfl⟩
    cases readable_of_fits hfits 0 with
    | natural _ magnitude hbound =>
      have hread := unsignedNumber_digitsOf false hbound ends_nil
      obtain ⟨c, digits, hdigits, hc⟩ := digitsOf_eq_cons magnitude
      change Spells (numberChars (.integer magnitude)) _
      rw [numberChars_natural]
      rw [List.append_nil, hdigits] at hread
      exact hdigits ▸ .natural hc hread
    | negative _ magnitude hpos hbound =>
      have hlimit : magnitude ≤ maxSignificand := Nat.le_trans hbound (by decide)
      have hread := unsignedNumber_digitsOf true hlimit ends_nil
      change Spells (numberChars (.integer (-magnitude))) _
      rw [numberChars_negative hpos]
      rw [List.append_nil, integerOf_negative hpos hbound] at hread
      exact .negative hread

/-- What is spelled like the compact text of an integer is that integer. -/
theorem eq_integer_iff {spelling : List Char} {number : JsonNumber}
    (h : Spells spelling number) (value : Int) :
    number = .integer value ↔ Fits value ∧ spelling = integerChars value := by
  constructor
  · rintro rfl
    exact spells_integer_iff.mp h
  · intro hinteger
    have hread := read_of_spells h
    rw [read_of_spells (spells_integer_iff.mpr hinteger)] at hread
    cases hread
    rfl

/-- The compact text of a number is its spelling, unless it is a double that is
spelled in another way. -/
theorem numberChars_eq_iff {spelling : List Char} {number : JsonNumber}
    (h : Spells spelling number) :
    numberChars number = spelling ↔
      ∀ value, number = .double value → spelling = doubleLayout.text value := by
  cases number with
  | integer value =>
    obtain ⟨_, rfl⟩ := spells_integer_iff.mp h
    exact ⟨nofun, fun _ => rfl⟩
  | double value =>
    constructor
    · rintro rfl _ ⟨⟩
      rfl
    · intro hspelling
      exact (hspelling value rfl).symm

end Compliance.Json
