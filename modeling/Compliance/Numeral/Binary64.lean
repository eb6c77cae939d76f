/-!
Double-precision numbers with exact arithmetic. A finite number is a sign and a whole number of units in the
last place: `mantissa` times two to the power `scale - 1074`. Every operation is the exact result rounded to
the nearest representable number, a tie going to the even mantissa; a result too large to represent is `none`.
-/

namespace Compliance.Numeral

def twoTo (exponent : Nat) : Nat := Nat.pow 2 exponent

def tenTo (exponent : Nat) : Nat := Nat.pow 10 exponent

/-- A finite double. The canonical form has `mantissa < 2 ^ 53`, and `2 ^ 52 ≤ mantissa` unless `scale` is
zero, so that equal numbers of one sign are equal structures. -/
structure Binary64 where
  negative : Bool
  mantissa : Nat
  scale : Nat
  deriving DecidableEq, Repr

namespace Binary64

/-- The leading bit of a mantissa, which is left out where a double is stored. -/
def hiddenBit : Nat := twoTo 52

/-- How many times the smallest double goes into one. -/
def denominator : Nat := twoTo 1074

def zero : Binary64 := ⟨false, 0, 0⟩

def isZero (number : Binary64) : Bool := number.mantissa == 0

/-- The quotient rounded to the nearest whole number, a tie to the even one. -/
def roundDiv (num den : Nat) : Nat :=
  let quotient := num / den
  let twice := 2 * (num % den)
  if twice < den ∨ (twice = den ∧ quotient % 2 = 0) then quotient else quotient + 1

/-- The largest scale of a finite double. -/
def maxScale : Nat := 2045

/-- The double nearest to `num / den`, unless that is beyond the largest finite one. -/
def ofRatio (num den : Nat) : Option Binary64 :=
  let units := num * denominator
  let scale := Nat.log2 (units / den) - 52
  let mantissa := roundDiv units (den * twoTo scale)
  let (mantissa, scale) := if mantissa < 2 * hiddenBit then (mantissa, scale) else (hiddenBit, scale + 1)
  if scale ≤ maxScale then some ⟨false, mantissa, scale⟩ else none

def ofNat? (value : Nat) : Option Binary64 := ofRatio value 1

/-- The magnitude of a double, counted in units of the smallest one. -/
def numerator (number : Binary64) : Nat := number.mantissa * twoTo number.scale

def withSign (negative : Bool) (number : Binary64) : Binary64 := { number with negative }

def mul (first second : Binary64) : Option Binary64 :=
  (ofRatio (first.numerator * second.numerator) (denominator * denominator)).map
    (withSign (first.negative != second.negative))

/-- The quotient of two doubles, the second one not zero. -/
def div (first second : Binary64) : Option Binary64 :=
  (ofRatio first.numerator second.numerator).map (withSign (first.negative != second.negative))

end Binary64

end Compliance.Numeral
