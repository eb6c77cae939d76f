import Compliance.Text.Split
import Compliance.Toml.Value

/-!
Values written without quotes: booleans, integers in four bases, floating-point numbers, dates and times. Digits
may be set apart by single underscores. Whether a number has the digits that it needs is only found out when it is
asked for: until then what is written like an integer counts as one. Seconds may be left out of a time.
-/

namespace Compliance.Toml

open Numeral

/-- Whether the part behind an underscore begins with a digit. -/
def beginsWell (isDigit : Char → Bool) (part : List Char) : Bool := part.head?.any isDigit

/-- Whether the part in front of an underscore ends with a digit. -/
def endsWell (isDigit : Char → Bool) (part : List Char) : Bool := part.getLast?.any isDigit

/-- A text without its underscores, if they stand where they may. -/
def joined? (isDigit : Char → Bool) (text : List Char) : Option (List Char) :=
  let parts := Text.split '_' text
  if parts.tail.all (beginsWell isDigit) && parts.dropLast.all (endsWell isDigit) then some parts.flatten
  else none

def digitValue (c : Char) : Nat :=
  if c.isDigit then c.toNat - '0'.toNat
  else if 'a' ≤ c ∧ c ≤ 'f' then c.toNat - 'a'.toNat + 10
  else c.toNat - 'A'.toNat + 10

def isHexDigit (c : Char) : Bool := c.isDigit || ('a' ≤ c && c ≤ 'f') || ('A' ≤ c && c ≤ 'F')

def numberOf (base : Nat) (digits : List Char) : Nat :=
  digits.foldl (fun value c => value * base + digitValue c) 0

/-- A sign, and what follows it. -/
def splitSign : List Char → Bool × List Char
  | '+' :: rest => (false, rest)
  | '-' :: rest => (true, rest)
  | rest => (false, rest)

/-- A zero in front of other characters. -/
def hasLeadingZero : List Char → Bool
  | '0' :: _ :: _ => true
  | _ => false

/-- An integer in another base than ten, behind the letter that names the base. -/
def based? (base : Nat) (isDigit : Char → Bool) (text : List Char) : Option Scalar :=
  if text.isEmpty then some .noInteger
  else (joined? isDigit text).bind fun digits =>
    if digits.all isDigit then some (.integer (numberOf base digits)) else none

/-- A decimal integer. Underscores may stand between the digits of any base. -/
def integer? (text : List Char) : Option Scalar :=
  let (negative, value) := splitSign text
  if value.isEmpty || hasLeadingZero value then none
  else (joined? isHexDigit text).map fun plain =>
    let digits := (splitSign plain).2
    if digits.all Char.isDigit then
      .integer (if negative then -(numberOf 10 digits : Int) else numberOf 10 digits)
    else .noInteger

/-- Above this power of ten a number with digits other than zero is no double, whatever the digits after the
point; below its negative a number rounds to zero unless it has that many digits. -/
def powerBound : Nat := 400

/-- The double nearest to the digits times a power of ten. -/
def realOf (negative : Bool) (digits : List Char) (power : Int) : Real :=
  let significand := numberOf 10 digits
  let magnitude :=
    if significand = 0 then some Binary64.zero
    else if power < 0 then
      if power.natAbs ≤ powerBound + digits.length then Binary64.ofRatio significand (tenTo power.natAbs)
      else some Binary64.zero
    else if power ≤ powerBound then Binary64.ofRatio (significand * tenTo power.toNat) 1
    else none
  match magnitude with
  | some value => .finite (value.withSign negative)
  | none => .overflow

/-- The digits in front of a text and what follows them; there may be underscores among the digits. -/
def digitRun? (text : List Char) : Option (List Char × List Char) :=
  let run := text.takeWhile fun c => c.isDigit || c = '_'
  let digits := run.filter Char.isDigit
  if digits.isEmpty then none else some (digits, text.drop run.length)

/-- The digits behind a point, if there is one. -/
def fraction? (text : List Char) : Option (List Char × List Char) :=
  match text with
  | '.' :: rest => digitRun? rest
  | _ => some ([], text)

/-- The power of ten behind its letter, if there is one. -/
def exponent? (text : List Char) : Option (Int × List Char) :=
  let behind (rest : List Char) : Option (Int × List Char) :=
    let (negative, rest) := splitSign rest
    (digitRun? rest).map fun (digits, rest) =>
      (if negative then -(numberOf 10 digits : Int) else numberOf 10 digits, rest)
  match text with
  | 'e' :: rest => behind rest
  | 'E' :: rest => behind rest
  | _ => some (0, text)

/-- A number with a point or an exponent. -/
def real? (text : List Char) : Option Real := do
  let (negative, value) := splitSign text
  let (whole, rest) ← digitRun? value
  let (fraction, rest) ← fraction? rest
  let (exponent, rest) ← exponent? rest
  if rest.isEmpty && !(value.head? = some '0' && 2 ≤ whole.length) && (joined? Char.isDigit text).isSome then
    some (realOf negative (whole ++ fraction) (exponent - fraction.length))
  else none

def twoDigits? : List Char → Option (Nat × List Char)
  | a :: b :: rest =>
    if a.isDigit && b.isDigit then some (digitValue a * 10 + digitValue b, rest) else none
  | _ => none

def daysIn (year month : Nat) : Nat :=
  if month = 2 then
    if year % 4 = 0 ∧ (year % 100 ≠ 0 ∨ year % 400 = 0) then 29 else 28
  else if month = 4 ∨ month = 6 ∨ month = 9 ∨ month = 11 then 30
  else 31

/-- What follows a character, if the text begins with it. -/
def after? (c : Char) : List Char → Option (List Char)
  | d :: rest => if d = c then some rest else none
  | [] => none

/-- What follows a date that is on the calendar. -/
def afterDate? (text : List Char) : Option (List Char) := do
  let (century, rest) ← twoDigits? text
  let (year, rest) ← twoDigits? rest
  let (month, rest) ← twoDigits? (← after? '-' rest)
  let (day, rest) ← twoDigits? (← after? '-' rest)
  if 1 ≤ month ∧ month ≤ 12 ∧ 1 ≤ day ∧ day ≤ daysIn (century * 100 + year) month then some rest else none

/-- What follows a fraction of a second, which has at least one digit. -/
def afterFraction? (text : List Char) : Option (List Char) :=
  match text with
  | '.' :: digits =>
    if (digits.takeWhile Char.isDigit).isEmpty then none else some (digits.dropWhile Char.isDigit)
  | _ => some text

/-- What follows a time of day; a minute may have a leap second. -/
def afterTime? (text : List Char) : Option (List Char) := do
  let (hour, rest) ← twoDigits? text
  let (minute, rest) ← twoDigits? (← after? ':' rest)
  if hour ≤ 23 ∧ minute ≤ 59 then
    match rest with
    | ':' :: seconds =>
      let (second, rest) ← twoDigits? seconds
      if second ≤ 60 then afterFraction? rest else none
    | _ => some rest
  else none

def isOffset (text : List Char) : Bool :=
  match text with
  | [] => true
  | ['Z'] => true
  | ['z'] => true
  | sign :: rest =>
    (sign = '+' || sign = '-') &&
      ((do
        let (hour, rest) ← twoDigits? rest
        let (minute, rest) ← twoDigits? (← after? ':' rest)
        return decide (hour ≤ 23 ∧ minute ≤ 59 ∧ rest = [])).getD false)

def isDatetime (text : List Char) : Bool :=
  match afterDate? text with
  | some [] => true
  | some (mark :: rest) =>
    (mark = 'T' || mark = 't' || mark = ' ') && ((afterTime? rest).map isOffset).getD false
  | none => (afterTime? text) == some []

/-- A number or a date. What follows the digits in front of it tells which of them it is. A space can only be in a
date; a tab is not told from other characters that are no digits. -/
def Scalar.ofDigits? (text : List Char) : Option Scalar :=
  let rest := (splitSign text).2.dropWhile Char.isDigit
  if rest.head? = some '-' || rest.head? = some ':' then
    if isDatetime text then some .datetime else none
  else if rest.contains ' ' then none
  else if rest.any fun c => c = '.' || c = 'e' || c = 'E' then (real? text).map .real
  else if rest.isEmpty || rest.head? = some '_' then integer? text
  else none

def Scalar.ofText? (text : List Char) : Option Scalar :=
  let (negative, value) := splitSign text
  if text = ['t', 'r', 'u', 'e'] then some (.boolean true)
  else if text = ['f', 'a', 'l', 's', 'e'] then some (.boolean false)
  else if value = ['i', 'n', 'f'] then some (.real (.infinite negative))
  else if value = ['n', 'a', 'n'] then some (.real .nan)
  else match text with
    | '0' :: 'x' :: digits => based? 16 isHexDigit digits
    | '0' :: 'o' :: digits => based? 8 (fun c => '0' ≤ c && c ≤ '7') digits
    | '0' :: 'b' :: digits => based? 2 (fun c => c = '0' || c = '1') digits
    | _ => Scalar.ofDigits? text

end Compliance.Toml
