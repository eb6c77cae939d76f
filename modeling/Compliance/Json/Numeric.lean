import Compliance.Json.Fault
import Compliance.Json.Value

/-!
Reading JSON numbers. The digits of a number are gathered into a significand of 64 bits and a power of ten;
digits beyond that range only move the power. A number with a point or an exponent, or one whose digits do not
all fit, is the significand as a double, multiplied or divided once by the power of ten.
-/

namespace Compliance.Json

open Numeral

def maxSignificand : Nat := twoTo 64 - 1

/-- The largest exponent that is worked out; longer ones are out of range or make the number zero. -/
def maxExponent : Nat := twoTo 31 - 1

def digitValue (c : Char) : Nat := c.toNat - '0'.toNat

/-- Digits taken in front of a text as long as the value stays within `limit`: the value, how many digits went
into it, and the text behind them. -/
def gather (limit value count : Nat) : List Char → Nat × Nat × List Char
  | [] => (value, count, [])
  | c :: rest =>
    if c.isDigit ∧ value * 10 + digitValue c ≤ limit then
      gather limit (value * 10 + digitValue c) (count + 1) rest
    else (value, count, c :: rest)

/-- The digits at the front of a text, counted, and what follows them. -/
def skipDigits (rest : List Char) : Nat × List Char :=
  ((rest.takeWhile Char.isDigit).length, rest.dropWhile Char.isDigit)

def powerOfTen (exponent : Nat) : Option Binary64 := Binary64.ofNat? (tenTo exponent)

/-- The largest power of ten that is a double. -/
def maxPower : Nat := 308

/-- The double divided by a power of ten, in steps of at most `10 ^ 308`. A significand divided twice by that
much is zero already. -/
def divideByPower (value : Binary64) (exponent : Nat) : Option Binary64 := do
  if exponent ≤ maxPower then value.div (← powerOfTen exponent)
  else
    let reduced ← value.div (← powerOfTen maxPower)
    if exponent ≤ 2 * maxPower then reduced.div (← powerOfTen (exponent - maxPower))
    else some Binary64.zero

/-- A significand times a power of ten; `none` when that is beyond the doubles. -/
def scaled (significand : Nat) (exponent : Int) : Option Binary64 := do
  let value ← Binary64.ofNat? significand
  if exponent < 0 then divideByPower value exponent.natAbs
  else if exponent ≤ maxPower then value.mul (← powerOfTen exponent.toNat)
  else if value.isZero then some value
  else none

/-- A reader takes something off the front of a text and returns it with what follows. -/
abbrev Parser (α : Type) := List Char → Except Fault (α × List Char)

/-- A magnitude with its sign, unless it is beyond the doubles. -/
def signed (negative : Bool) : Option Binary64 → Parser JsonNumber
  | some value, rest => .ok (.double (value.withSign negative), rest)
  | none, rest => .error (.before .numberOutOfRange rest)

def doubleOf (negative : Bool) (significand : Nat) (exponent : Int) : Parser JsonNumber :=
  signed negative (scaled significand exponent)

/-- The digits of an exponent behind its sign. -/
def exponentDigits (negative : Bool) (significand : Nat) (start : Int) (downwards : Bool) :
    Parser JsonNumber := fun rest =>
  match rest with
  | [] => .error (.on .eofValue [])
  | c :: _ =>
    if !c.isDigit then .error (.on .invalidNumber rest)
    else
      let (exponent, _, behind) := gather maxExponent 0 0 rest
      match behind with
      | d :: further =>
        if d.isDigit then
          if significand ≠ 0 ∧ !downwards then .error (.before .numberOutOfRange further)
          else .ok (.double (Binary64.zero.withSign negative), (skipDigits further).2)
        else doubleOf negative significand (if downwards then start - exponent else start + exponent) behind
      | [] => doubleOf negative significand (if downwards then start - exponent else start + exponent) []

/-- What follows the letter of an exponent. -/
def exponentPart (negative : Bool) (significand : Nat) (start : Int) : Parser JsonNumber
  | '+' :: rest => exponentDigits negative significand start false rest
  | '-' :: rest => exponentDigits negative significand start true rest
  | rest => exponentDigits negative significand start false rest

/-- What follows the digits of a number that is known to be a double. -/
def doubleTail (negative : Bool) (significand : Nat) (exponent : Int) : Parser JsonNumber
  | 'e' :: rest => exponentPart negative significand exponent rest
  | 'E' :: rest => exponentPart negative significand exponent rest
  | rest => doubleOf negative significand exponent rest

/-- What follows the point, with `dropped` digits before it that did not fit. -/
def fractionPart (negative : Bool) (significand dropped : Nat) : Parser JsonNumber := fun rest =>
  let (significand, count, behind) := gather maxSignificand significand 0 rest
  let (beyond, behind) := skipDigits behind
  if count = 0 ∧ beyond = 0 then
    .error (.on (if behind.isEmpty then .eofValue else .invalidNumber) behind)
  else doubleTail negative significand ((dropped : Int) - count) behind

/-- An integer that fits 64 bits, signed or not, stays one; minus zero is a double. -/
def integerOf (negative : Bool) (magnitude : Nat) : Parser JsonNumber := fun rest =>
  if !negative then .ok (.integer magnitude, rest)
  else if magnitude ≠ 0 ∧ magnitude ≤ twoTo 63 then .ok (.integer (-magnitude), rest)
  else doubleOf true magnitude 0 rest

/-- A number without a point and without an exponent, `dropped` digits of which did not fit the significand. -/
def plainTail (negative : Bool) (significand dropped : Nat) : Parser JsonNumber :=
  if dropped = 0 then integerOf negative significand else doubleOf negative significand dropped

/-- What follows the digits before the point, `dropped` of which did not fit the significand. -/
def numberTail (negative : Bool) (significand dropped : Nat) : Parser JsonNumber := fun rest =>
  match rest with
  | '.' :: behind => fractionPart negative significand dropped behind
  | 'e' :: _ | 'E' :: _ => doubleTail negative significand dropped rest
  | _ => plainTail negative significand dropped rest

/-- A number behind its sign. -/
def unsignedNumber (negative : Bool) : Parser JsonNumber := fun rest =>
  match rest with
  | [] => .error (.on .eofValue [])
  | '0' :: behind =>
    match behind with
    | c :: _ => if c.isDigit then .error (.on .invalidNumber behind) else numberTail negative 0 0 behind
    | [] => numberTail negative 0 0 []
  | c :: _ =>
    if !c.isDigit then .error (.on .invalidNumber rest)
    else
      let (significand, _, behind) := gather maxSignificand 0 0 rest
      let (dropped, behind) := skipDigits behind
      numberTail negative significand dropped behind

end Compliance.Json
