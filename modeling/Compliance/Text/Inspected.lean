import Compliance.Text.Shown

/-!
Text written for inspection: between double quotes, with the quote and the backslash escaped, the common controls
under their letters, and every other character that is not shown as its code point between braces.
-/

namespace Compliance.Text

def lowerHex (value : Nat) : List Char := Nat.toDigits 16 value

/-- A character that is not shown, by its code point. -/
def codePoint (c : Char) : List Char :=
  '\\' :: 'u' :: '\x7b' :: (lowerHex c.toNat ++ ['\x7d'])

def inspectedChar (c : Char) : List Char :=
  if c = '\x00' then ['\\', '0']
  else if c = '\t' then ['\\', 't']
  else if c = '\r' then ['\\', 'r']
  else if c = '\n' then ['\\', 'n']
  else if c = '\\' || c = '"' then ['\\', c]
  else if isShown c then [c]
  else codePoint c

def inspected (text : String) : String :=
  String.ofList ('"' :: (text.toList.flatMap inspectedChar ++ ['"']))

end Compliance.Text
