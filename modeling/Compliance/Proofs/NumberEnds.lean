import Compliance.Proofs.Attempts
import Compliance.Proofs.DigitRuns

/-!
Where a number ends. The reader of numbers leaves a part of its text over, and what
it makes of the text does not depend on anything behind the run of characters that
numbers are made of. So a number that is followed by something else is what its own
characters are read as.
-/

namespace Compliance.Json

open Numeral

/-- The characters that numbers are made of. -/
def isNumeral (c : Char) : Bool :=
  c.isDigit || c = '-' || c = '+' || c = '.' || c = 'e' || c = 'E'

/-- What follows a number: nothing, or a character that is in no number. -/
def NumberEnds (rest : List Char) : Prop := ∀ c ∈ rest.head?, isNumeral c = false

/-- A reader of numbers, or of the end of one, that leaves a part of its text over and
does not see what follows a number. -/
structure Settles (parser : Parser JsonNumber) : Prop where
  leaves {text rest : List Char} {number : JsonNumber}
    (h : parser text = .ok (number, rest)) : rest <:+ text
  ends (text : List Char) {rest : List Char} (h : NumberEnds rest) :
    (parser (text ++ rest)).toOption =
      (parser text).toOption.map fun read => (read.1, read.2 ++ rest)

theorem numberEnds_nil : NumberEnds [] := by simp [NumberEnds]

theorem noDigit_of_numberEnds {rest : List Char} (h : NumberEnds rest) :
    NoDigit rest := by
  intro c hc
  have hnumeral : isNumeral c = false := h c hc
  simp only [isNumeral, Bool.or_eq_false_iff] at hnumeral
  exact hnumeral.1.1.1.1.1

theorem noDigit_append {text rest : List Char} (h : NoDigit text)
    (hrest : NoDigit rest) : NoDigit (text ++ rest) := by
  cases text with
  | nil => exact hrest
  | cons c others => exact h

theorem ne_of_numberEnds {c d : Char} {rest : List Char} (h : NumberEnds (c :: rest))
    (hd : isNumeral d = true) : c ≠ d := by
  rintro rfl
  cases hd.symm.trans (h c rfl)

/-! ## The end of a number -/

section Settling

variable (negative : Bool) (significand : Nat)

/-- What takes nothing off its text. -/
theorem settles_pure (number : JsonNumber) : Settles fun rest => .ok (number, rest) where
  leaves h := by
    cases h
    exact List.suffix_rfl
  ends _ _ _ := rfl

theorem settles_signed (outcome : Option Binary64) :
    Settles (signed negative outcome) := by
  cases outcome with
  | none => exact ⟨nofun, fun _ _ _ => rfl⟩
  | some value => exact settles_pure _

theorem settles_doubleOf (exponent : Int) :
    Settles (doubleOf negative significand exponent) :=
  settles_signed negative _

theorem exponentDigits_leaves {start : Int} {downwards : Bool} {text rest : List Char}
    {number : JsonNumber}
    (h : exponentDigits negative significand start downwards text = .ok (number, rest)) :
    rest <:+ text := by
  unfold exponentDigits at h
  split at h
  · cases h
  next c others =>
  have hgathered := gather_suffix maxExponent 0 0 (c :: others)
  split at h
  · cases h
  dsimp only at h
  split at h
  · next d further hbehind =>
    rw [hbehind] at hgathered h
    split at h
    · split at h
      · cases h
      · cases h
        exact (skipDigits_suffix further).trans
          ((List.suffix_cons d further).trans hgathered)
    · exact ((settles_doubleOf ..).leaves h).trans hgathered
  · next hbehind =>
    rw [hbehind] at hgathered
    exact ((settles_doubleOf ..).leaves h).trans hgathered

theorem exponentDigits_ends (start : Int) (downwards : Bool) (text : List Char)
    {rest : List Char} (hrest : NumberEnds rest) :
    (exponentDigits negative significand start downwards (text ++ rest)).toOption =
      (exponentDigits negative significand start downwards text).toOption.map
        fun read => (read.1, read.2 ++ rest) := by
  have hend := noDigit_of_numberEnds hrest
  cases text with
  | nil =>
    cases rest with
    | nil => rfl
    | cons c behind =>
      simp only [List.nil_append, exponentDigits, hend c rfl, Bool.not_false, if_true]
      rfl
  | cons c others =>
    have hgather := gather_append maxExponent 0 0 hend (c :: others)
    rw [List.cons_append] at hgather ⊢
    unfold exponentDigits
    dsimp only
    rw [hgather]
    cases hdigit : c.isDigit with
    | false => rfl
    | true =>
      generalize gather maxExponent 0 0 (c :: others) = gathered
      obtain ⟨exponent, count, behind⟩ := gathered
      simp only [Bool.not_true, Bool.false_eq_true, if_false]
      -- A digit behind the gathered ones means that the exponent is beyond its limit.
      cases behind with
      | nil =>
        have hdouble := (settles_doubleOf negative significand
          (if downwards then start - exponent else start + exponent)).ends [] hrest
        cases rest with
        | nil => exact hdouble
        | cons d further =>
          rw [List.nil_append] at hdouble ⊢
          simp only [hend d rfl, Bool.false_eq_true, if_false]
          exact hdouble
      | cons d further =>
        simp only [List.cons_append]
        cases hd : d.isDigit with
        | false =>
          simp only [Bool.false_eq_true, if_false]
          exact (settles_doubleOf ..).ends (d :: further) hrest
        | true =>
          simp only [if_true, skipDigits_append hend]
          split <;> rfl

theorem settles_exponentDigits (start : Int) (downwards : Bool) :
    Settles (exponentDigits negative significand start downwards) where
  leaves := exponentDigits_leaves negative significand
  ends := exponentDigits_ends negative significand start downwards

theorem settles_integerOf (magnitude : Nat) :
    Settles (integerOf negative magnitude) := by
  cases negative with
  | false => exact settles_pure (.integer magnitude)
  | true =>
    by_cases h : magnitude ≠ 0 ∧ magnitude ≤ twoTo 63
    · rw [integerOf_negative h.1 h.2]
      exact settles_pure _
    · rw [integerOf_beyond h]
      exact settles_doubleOf true magnitude 0

/-- A reader that goes on behind certain characters, and where none of these stands
reads the text another way. -/
theorem settles_of_head {parser plain : Parser JsonNumber} (hplain : Settles plain)
    (hnil : parser [] = plain [])
    (hcons : ∀ c, (isNumeral c = true ∧
        ∃ next, Settles next ∧ ∀ others, parser (c :: others) = next others) ∨
      ∀ others, parser (c :: others) = plain (c :: others)) : Settles parser where
  leaves {text rest number} h := by
    cases text with
    | nil => exact hplain.leaves (hnil ▸ h)
    | cons c others =>
      rcases hcons c with ⟨_, next, hnext, hbranch⟩ | hbare
      · exact (hnext.leaves (hbranch others ▸ h)).trans (List.suffix_cons c others)
      · exact hplain.leaves (hbare others ▸ h)
  ends text {rest} hrest := by
    cases text with
    | nil =>
      rw [hnil, ← hplain.ends [] hrest, List.nil_append]
      cases rest with
      | nil => rw [hnil]
      | cons c behind =>
        rcases hcons c with ⟨hnumeral, _⟩ | hbare
        · exact absurd rfl (ne_of_numberEnds hrest hnumeral)
        · rw [hbare]
    | cons c others =>
      rcases hcons c with ⟨_, next, hnext, hbranch⟩ | hbare
      · rw [List.cons_append, hbranch, hbranch]
        exact hnext.ends others hrest
      · rw [List.cons_append, hbare, hbare, ← List.cons_append]
        exact hplain.ends (c :: others) hrest

theorem settles_exponentPart (start : Int) :
    Settles (exponentPart negative significand start) := by
  refine settles_of_head (settles_exponentDigits negative significand start false) rfl
    fun c => ?_
  by_cases hplus : c = '+'
  · subst hplus
    exact .inl ⟨by decide, _, settles_exponentDigits .., fun _ => rfl⟩
  by_cases hminus : c = '-'
  · subst hminus
    exact .inl ⟨by decide, _, settles_exponentDigits .., fun _ => rfl⟩
  · refine .inr fun others => ?_
    unfold exponentPart
    split
    · next h => cases h; exact absurd rfl hplus
    · next h => cases h; exact absurd rfl hminus
    · rfl

theorem settles_doubleTail (exponent : Int) :
    Settles (doubleTail negative significand exponent) := by
  refine settles_of_head (settles_doubleOf negative significand exponent) rfl
    fun c => ?_
  by_cases hlower : c = 'e'
  · subst hlower
    exact .inl ⟨by decide, _, settles_exponentPart .., fun _ => rfl⟩
  by_cases hupper : c = 'E'
  · subst hupper
    exact .inl ⟨by decide, _, settles_exponentPart .., fun _ => rfl⟩
  · refine .inr fun others => ?_
    unfold doubleTail
    split
    · next h => cases h; exact absurd rfl hlower
    · next h => cases h; exact absurd rfl hupper
    · rfl

theorem settles_fractionPart (dropped : Nat) :
    Settles (fractionPart negative significand dropped) where
  leaves {text rest number} h := by
    unfold fractionPart at h
    dsimp only at h
    split at h
    · cases h
    · exact ((settles_doubleTail ..).leaves h).trans
        ((skipDigits_suffix _).trans (gather_suffix ..))
  ends text {rest} hrest := by
    have hend := noDigit_of_numberEnds hrest
    simp only [fractionPart, gather_append _ _ _ hend, skipDigits_append hend]
    split
    · rfl
    · exact (settles_doubleTail ..).ends _ hrest

theorem settles_plainTail (dropped : Nat) :
    Settles (plainTail negative significand dropped) := by
  unfold plainTail
  split
  · exact settles_integerOf negative significand
  · exact settles_doubleOf negative significand dropped

theorem settles_numberTail (dropped : Nat) :
    Settles (numberTail negative significand dropped) := by
  refine settles_of_head (settles_plainTail negative significand dropped)
    (numberTail_plain _ _ _ (by simp)) fun c => ?_
  by_cases hpoint : c = '.'
  · subst hpoint
    exact .inl ⟨by decide, _, settles_fractionPart .., fun _ => rfl⟩
  by_cases hlower : c = 'e'
  · subst hlower
    exact .inl ⟨by decide, _, settles_exponentPart .., fun _ => rfl⟩
  by_cases hupper : c = 'E'
  · subst hupper
    exact .inl ⟨by decide, _, settles_exponentPart .., fun _ => rfl⟩
  · refine .inr fun others => numberTail_plain _ _ _ fun d hd => ?_
    cases hd
    exact ⟨hpoint, hlower, hupper⟩

theorem unsignedNumber_none {text : List Char} (h : NoDigit text) :
    (unsignedNumber negative text).toOption = none := by
  unfold unsignedNumber
  split
  · rfl
  · cases h '0' rfl
  · next c others _ =>
    have hc : c.isDigit = false := h c rfl
    simp only [hc, Bool.not_false, if_true]
    rfl

theorem unsignedNumber_zeros {c : Char} (h : c.isDigit = true) (others : List Char) :
    (unsignedNumber negative ('0' :: c :: others)).toOption = none := by
  simp only [unsignedNumber, h, if_true]
  rfl

/-- How a text begins where a number is expected: like none, with a zero in front of
another digit, with a zero that stands alone, or with some other digit. -/
inductive NumberStart : List Char → Prop
  | none {text : List Char} (h : NoDigit text) : NumberStart text
  | zeros {c : Char} (h : c.isDigit = true) (others : List Char) :
    NumberStart ('0' :: c :: others)
  | zero {behind : List Char} (h : NoDigit behind) : NumberStart ('0' :: behind)
  | digits {c : Char} (hzero : c ≠ '0') (h : c.isDigit = true) (others : List Char) :
    NumberStart (c :: others)

theorem numberStart (text : List Char) : NumberStart text := by
  cases text with
  | nil => exact .none noDigit_nil
  | cons c others =>
    cases hc : c.isDigit with
    | false => exact .none (noDigit_cons hc others)
    | true =>
      by_cases hzero : c = '0'
      · subst hzero
        cases others with
        | nil => exact .zero noDigit_nil
        | cons d more =>
          cases hd : d.isDigit with
          | false => exact .zero (noDigit_cons hd more)
          | true => exact .zeros hd more
      · exact .digits hzero hc others

theorem settles_unsignedNumber : Settles (unsignedNumber negative) where
  leaves {text rest number} h := by
    have hsome := toOption_eq_some_iff.mpr h
    cases numberStart text with
    | none hnone =>
      rw [unsignedNumber_none negative hnone] at hsome
      cases hsome
    | zeros hc others =>
      rw [unsignedNumber_zeros negative hc] at hsome
      cases hsome
    | zero hbehind =>
      rw [unsignedNumber_zero negative hbehind] at h
      exact ((settles_numberTail ..).leaves h).trans (List.suffix_cons ..)
    | digits hzero hc others =>
      rw [unsignedNumber_digits negative hzero hc] at h
      exact ((settles_numberTail ..).leaves h).trans
        ((skipDigits_suffix _).trans (gather_suffix ..))
  ends text {rest} hrest := by
    have hend := noDigit_of_numberEnds hrest
    cases numberStart text with
    | none hnone =>
      rw [unsignedNumber_none negative hnone,
        unsignedNumber_none negative (noDigit_append hnone hend)]
      rfl
    | zeros hc others =>
      rw [List.cons_append, List.cons_append, unsignedNumber_zeros negative hc,
        unsignedNumber_zeros negative hc]
      rfl
    | zero hbehind =>
      rw [List.cons_append, unsignedNumber_zero negative hbehind,
        unsignedNumber_zero negative (noDigit_append hbehind hend)]
      exact (settles_numberTail ..).ends _ hrest
    | digits hzero hc others =>
      rw [List.cons_append, unsignedNumber_digits negative hzero hc,
        unsignedNumber_digits negative hzero hc, ← List.cons_append,
        gather_append _ _ _ hend, skipDigits_append hend]
      exact (settles_numberTail ..).ends _ hrest

end Settling

/-- Of a text with a number in front, the number takes what its characters reach, and
is what they are read as alone. -/
theorem unsignedNumber_eq_ok {negative : Bool} {text rest : List Char}
    {number : JsonNumber} (hrest : NumberEnds rest)
    (h : unsignedNumber negative text = .ok (number, rest)) :
    ∃ spelling, text = spelling ++ rest ∧ (∀ c ∈ spelling, isNumeral c = true) ∧
      unsignedNumber negative spelling = .ok (number, []) := by
  have hends : NumberEnds (text.dropWhile isNumeral) := fun c hc => by
    simpa [Option.mem_def.mp hc] using List.head?_dropWhile_not isNumeral text
  have hnumeral : ∀ c ∈ text.takeWhile isNumeral, isNumeral c = true :=
    fun c hc => List.all_eq_true.mp List.all_takeWhile c hc
  have hread := (settles_unsignedNumber negative).ends (text.takeWhile isNumeral) hends
  rw [List.takeWhile_append_dropWhile, h] at hread
  obtain ⟨⟨read, left⟩, hfront, hwhole⟩ := Option.map_eq_some_iff.mp hread.symm
  rw [toOption_eq_some_iff] at hfront
  cases hwhole
  -- Anything left over would be characters of numbers right where the number ends.
  have hleft : left = [] := by
    cases left with
    | nil => rfl
    | cons c others =>
      have hc : c ∈ text.takeWhile isNumeral :=
        ((settles_unsignedNumber negative).leaves hfront).subset List.mem_cons_self
      exact absurd rfl (ne_of_numberEnds hrest (hnumeral c hc))
  subst hleft
  exact ⟨_, List.takeWhile_append_dropWhile.symm, hnumeral, hfront⟩

end Compliance.Json
