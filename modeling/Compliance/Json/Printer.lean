import Compliance.Json.Value
import Compliance.Numeral.Shortest

/-!
The compact text of a JSON value: no blanks, members in key order, and in strings only the quote, the
backslash and the control characters below the blank escaped. Such a text holds no line feed, so it is one
line of output.
-/

namespace Compliance.Json

open Numeral

/-- Doubles are written positionally from `1e-5` up to below `1e16`; an exact tie goes to the even digit. -/
def doubleLayout : Layout := ⟨.toEven, fun point => -5 < point && point ≤ 16⟩

def integerChars (value : Int) : List Char :=
  if value < 0 then '-' :: digitsOf value.natAbs else digitsOf value.natAbs

def numberChars : JsonNumber → List Char
  | .integer value => integerChars value
  | .double value => doubleLayout.text value

/-- One character of a string between its quotes. -/
def escapedChar (c : Char) : List Char :=
  if c = '"' then ['\\', '"']
  else if c = '\\' then ['\\', '\\']
  else if c = '\x08' then ['\\', 'b']
  else if c = '\x0c' then ['\\', 'f']
  else if c = '\n' then ['\\', 'n']
  else if c = '\r' then ['\\', 'r']
  else if c = '\t' then ['\\', 't']
  else if c.toNat < 0x20 then
    ['\\', 'u', '0', '0', (c.toNat / 16).digitChar, (c.toNat % 16).digitChar]
  else [c]

def stringChars (text : String) : List Char :=
  '"' :: (text.toList.flatMap escapedChar ++ ['"'])

mutual

def chars : Json → List Char
  | .null => ['n', 'u', 'l', 'l']
  | .boolean true => ['t', 'r', 'u', 'e']
  | .boolean false => ['f', 'a', 'l', 's', 'e']
  | .number value => numberChars value
  | .string text => stringChars text
  | .array [] => ['[', ']']
  | .array (item :: rest) => '[' :: (chars item ++ itemsChars rest)
  | .object [] => ['\x7b', '\x7d']
  | .object ((key, value) :: rest) =>
    '\x7b' :: (stringChars key ++ ':' :: (chars value ++ membersChars rest))

/-- The items after the first one, up to the closing bracket. -/
def itemsChars : List Json → List Char
  | [] => [']']
  | item :: rest => ',' :: (chars item ++ itemsChars rest)

/-- The members after the first one, up to the closing brace. -/
def membersChars : List (String × Json) → List Char
  | [] => ['\x7d']
  | (key, value) :: rest => ',' :: (stringChars key ++ ':' :: (chars value ++ membersChars rest))

end

/-- The compact text of a value. -/
def text (value : Json) : String := String.ofList value.chars

end Compliance.Json
