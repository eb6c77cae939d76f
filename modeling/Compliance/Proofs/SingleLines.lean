import Compliance.Json.Printer
import Compliance.Proofs.NumberEnds

/-!
The compact text of a JSON value is one line: whatever its strings hold, no line
feed is written. Numbers are written with numerals alone.
-/

namespace Compliance

open Numeral

section Numerals

variable {c : Char} (hc : Json.isNumeral c = false)
include hc

theorem ne_numeral {d : Char} (hd : Json.isNumeral d = true) : c ≠ d := by
  rintro rfl
  cases hd.symm.trans hc

theorem not_mem_digitsOf (value : Nat) : c ∉ digitsOf value := by
  intro h
  have hdigit := Nat.isDigit_of_mem_toDigits (by decide) (by decide) h
  simp [Json.isNumeral, hdigit] at hc

/-- The digits of a double are those of a whole number without the zeros at its
end. -/
theorem not_mem_shortest (tie : Tie) (number : Binary64) :
    c ∉ (number.shortest tie).digits := by
  unfold Binary64.shortest
  dsimp only
  split
  · simpa using ne_numeral hc (by decide)
  · next count steps _ =>
    intro h
    have hm := (List.dropWhile_sublist _).subset (List.mem_reverse.mp h)
    exact not_mem_digitsOf hc steps (List.mem_reverse.mp hm)

namespace Numeral.Layout

theorem not_mem_zeros (count : Nat) : c ∉ zeros count := by
  intro h
  exact ne_numeral hc (by decide) (List.eq_of_mem_replicate h)

theorem not_mem_positionalText {text : DecimalText} (h : c ∉ text.digits) :
    c ∉ positionalText text := by
  have htake : ∀ count, c ∉ text.digits.take count :=
    fun count hm => h (List.mem_of_mem_take hm)
  have hdrop : ∀ count, c ∉ text.digits.drop count :=
    fun count hm => h (List.mem_of_mem_drop hm)
  have hzero : c ≠ '0' := ne_numeral hc (by decide)
  have hpoint : c ≠ '.' := ne_numeral hc (by decide)
  unfold positionalText
  split
  · simp [h, hzero, hpoint, not_mem_zeros hc]
  dsimp only
  split
  · simp [h, hzero, hpoint, not_mem_zeros hc]
  · simp [hpoint, htake, hdrop]

theorem not_mem_exponentText {text : DecimalText} (h : c ∉ text.digits) :
    c ∉ exponentText text := by
  have htake : c ∉ text.digits.take 1 := fun hm => h (List.mem_of_mem_take hm)
  have htail : c ∉ text.digits.tail := fun hm => h (List.mem_of_mem_tail hm)
  have hexponent := not_mem_digitsOf hc (text.point - 1).natAbs
  have hpoint : c ≠ '.' := ne_numeral hc (by decide)
  have hletter : c ≠ 'e' := ne_numeral hc (by decide)
  have hminus : c ≠ '-' := ne_numeral hc (by decide)
  have hplus : c ≠ '+' := ne_numeral hc (by decide)
  unfold exponentText
  dsimp only
  split <;> split <;> simp [htake, htail, hexponent, hpoint, hletter, hminus, hplus]

theorem not_mem_text (layout : Layout) (number : Binary64) : c ∉ layout.text number := by
  have hdigits := not_mem_shortest hc layout.tie number
  have hmagnitude : c ∉ (if number.isZero then "0.0".toList
      else if layout.positional (number.shortest layout.tie).point
        then positionalText (number.shortest layout.tie)
        else exponentText (number.shortest layout.tie)) := by
    split
    · have hzero : c ≠ '0' := ne_numeral hc (by decide)
      have hpoint : c ≠ '.' := ne_numeral hc (by decide)
      simp [hzero, hpoint]
    split
    · exact not_mem_positionalText hc hdigits
    · exact not_mem_exponentText hc hdigits
  have hsign : c ≠ '-' := ne_numeral hc (by decide)
  unfold Layout.text
  dsimp only
  split
  · simpa [hsign] using hmagnitude
  · exact hmagnitude

end Numeral.Layout

/-- A number is written with numerals alone. -/
theorem Json.not_mem_numberChars (number : JsonNumber) : c ∉ Json.numberChars number := by
  cases number with
  | double value => exact Layout.not_mem_text hc Json.doubleLayout value
  | integer value =>
    have hsign : c ≠ '-' := ne_numeral hc (by decide)
    rw [Json.numberChars, Json.integerChars]
    split
    · simp [hsign, not_mem_digitsOf hc]
    · exact not_mem_digitsOf hc _

end Numerals

namespace Json

theorem lineFeed_not_mem_escapedChar (c : Char) : '\n' ∉ escapedChar c := by
  unfold escapedChar
  split
  · decide
  split
  · decide
  split
  · decide
  split
  · decide
  split
  · decide
  split
  · decide
  split
  · decide
  split
  · next h =>
    have hall : ∀ digit : Fin 16, '\n' ≠ Nat.digitChar digit := by decide
    have hhigh := hall ⟨c.toNat / 16, by omega⟩
    have hlow := hall ⟨c.toNat % 16, by omega⟩
    simp_all
  · next hlineFeed _ _ _ => simpa using Ne.symm hlineFeed

theorem lineFeed_not_mem_stringChars (text : String) : '\n' ∉ stringChars text := by
  simp [stringChars, lineFeed_not_mem_escapedChar]

mutual

theorem lineFeed_not_mem_chars : ∀ value : Json, '\n' ∉ value.chars
  | .null => by decide
  | .boolean true => by decide
  | .boolean false => by decide
  | .number value => by
    simpa [chars] using not_mem_numberChars (by decide) value
  | .string text => by
    simpa [chars] using lineFeed_not_mem_stringChars text
  | .array [] => by simp [chars]
  | .array (item :: rest) => by
    have hitem := lineFeed_not_mem_chars item
    have hrest := lineFeed_not_mem_itemsChars rest
    simp [chars, hitem, hrest]
  | .object [] => by simp [chars]
  | .object ((key, value) :: rest) => by
    have hvalue := lineFeed_not_mem_chars value
    have hrest := lineFeed_not_mem_membersChars rest
    simp [chars, lineFeed_not_mem_stringChars, hvalue, hrest]

theorem lineFeed_not_mem_itemsChars : ∀ items : List Json, '\n' ∉ itemsChars items
  | [] => by simp [itemsChars]
  | item :: rest => by
    have hitem := lineFeed_not_mem_chars item
    have hrest := lineFeed_not_mem_itemsChars rest
    simp [itemsChars, hitem, hrest]

theorem lineFeed_not_mem_membersChars :
    ∀ members : List (String × Json), '\n' ∉ membersChars members
  | [] => by simp [membersChars]
  | (key, value) :: rest => by
    have hvalue := lineFeed_not_mem_chars value
    have hrest := lineFeed_not_mem_membersChars rest
    simp [membersChars, lineFeed_not_mem_stringChars, hvalue, hrest]

end

theorem lineFeed_not_mem_text (value : Json) : '\n' ∉ value.text.toList := by
  simpa [text] using lineFeed_not_mem_chars value

end Json

end Compliance
