import Compliance.Numeral.Binary64

/-!
Decimal text of doubles. A double is written with the fewest significant digits that read back as the same
double; of two candidates with that many digits the nearer one is taken. Which candidate wins an exact tie and
where positional writing ends are decisions of the format that prints the number, collected in `Layout`.
-/

namespace Compliance.Numeral

/-- What happens when two candidates are equally near. -/
inductive Tie where
  | toEven
  | up
  deriving DecidableEq, Repr

/-- The number `0.digits` times ten to the power `point`, without zeros at the end of the digits. -/
structure DecimalText where
  digits : List Char
  point : Int
  deriving DecidableEq, Repr

def digitsOf (value : Nat) : List Char := Nat.toDigits 10 value

namespace Binary64

/-- Every positive double times this power of ten is at least one. -/
def decimalShift : Nat := 400

/-- Four times the magnitude and the ends of the interval that rounds to it, all in quarters of the unit in
the last place. Below a power of two the next double is only half as far away. -/
def interval (number : Binary64) : Nat × Nat × Nat :=
  let value := 4 * number.mantissa
  let low := if number.mantissa = hiddenBit ∧ 0 < number.scale then value - 1 else value - 2
  (low * twoTo number.scale, value * twoTo number.scale, (value + 2) * twoTo number.scale)

/-- The quarter unit that `interval` counts in. -/
def quarterUnits : Nat := 4 * denominator

/-- The digits before the point of the magnitude times `10 ^ decimalShift`. -/
def shiftedLength (number : Binary64) : Nat :=
  (digitsOf (number.interval.2.1 * tenTo decimalShift / quarterUnits)).length

/-- The candidate with `count` digits: a whole number of steps of the grid with that many digits. -/
def candidate? (tie : Tie) (number : Binary64) (count : Nat) : Option Nat :=
  let (low, value, high) := number.interval
  let step := tenTo (number.shiftedLength - count) * quarterUnits
  let scaled (quarters : Nat) := quarters * tenTo decimalShift
  let below := scaled value / step
  let reads (steps : Nat) : Bool :=
    if number.mantissa % 2 = 0 then scaled low ≤ steps * step && steps * step ≤ scaled high
    else scaled low < steps * step && steps * step < scaled high
  let twice := 2 * (scaled value % step)
  let upper : Bool :=
    step < twice || (twice = step && (match tie with | .up => true | .toEven => below % 2 = 1))
  match reads below, reads (below + 1) with
  | true, true => some (if upper then below + 1 else below)
  | true, false => some below
  | false, true => some (below + 1)
  | false, false => none

/-- The shortest digits of a nonzero double; its sign is left out. -/
def shortest (tie : Tie) (number : Binary64) : DecimalText :=
  let found := (List.range' 1 17).findSome? fun count =>
    (number.candidate? tie count).map fun steps => (count, steps)
  match found with
  | none => ⟨['0'], 0⟩
  | some (count, steps) =>
    let digits := digitsOf steps
    ⟨(digits.reverse.dropWhile (· == '0')).reverse,
      (number.shiftedLength : Int) - decimalShift + digits.length - count⟩

end Binary64

/-- The decisions of a format on how it writes doubles. -/
structure Layout where
  tie : Tie
  /-- Whether a number whose point stands at this place is written without an exponent. -/
  positional : Int → Bool

namespace Layout

def zeros (count : Nat) : List Char := List.replicate count '0'

/-- The digits with the point in its place and at least one digit on either side of it. -/
def positionalText (text : DecimalText) : List Char :=
  if text.point ≤ 0 then "0.".toList ++ zeros (-text.point).toNat ++ text.digits
  else
    let whole := text.point.toNat
    if text.digits.length ≤ whole then
      text.digits ++ zeros (whole - text.digits.length) ++ ".0".toList
    else text.digits.take whole ++ '.' :: text.digits.drop whole

/-- One digit before the point, and an exponent with its sign. -/
def exponentText (text : DecimalText) : List Char :=
  let fraction := text.digits.drop 1
  let exponent := text.point - 1
  text.digits.take 1 ++ (if fraction.isEmpty then [] else '.' :: fraction) ++
    'e' :: (if exponent < 0 then '-' else '+') :: digitsOf exponent.natAbs

def text (layout : Layout) (number : Binary64) : List Char :=
  let magnitude :=
    if number.isZero then "0.0".toList
    else
      let shortest := number.shortest layout.tie
      if layout.positional shortest.point then positionalText shortest else exponentText shortest
  if number.negative then '-' :: magnitude else magnitude

end Layout

end Compliance.Numeral
