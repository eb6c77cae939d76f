import Compliance.Json.Value
import Compliance.NameSet
import Compliance.Text.Split

/-!
JSON pointers: a slash before each reference token, the tilde and the slash inside a token written `~0` and
`~1`. A token names a member of an object or, written as a plain number, an item of an array.
-/

namespace Compliance.Json.Pointer

/-- A token as it stands in a pointer. -/
def escapeToken : List Char → List Char
  | [] => []
  | c :: rest =>
    (if c = '~' then ['~', '0'] else if c = '/' then ['~', '1'] else [c]) ++ escapeToken rest

/-- The token that a part of a pointer stands for; a tilde before anything else stands for itself. -/
def unescapeToken : List Char → List Char
  | '~' :: '1' :: rest => '/' :: unescapeToken rest
  | '~' :: '0' :: rest => '~' :: unescapeToken rest
  | c :: rest => c :: unescapeToken rest
  | [] => []

/-- The tokens of a pointer; the empty pointer has none, and other pointers begin with a slash. -/
def tokens? : List Char → Option (List String)
  | [] => some []
  | '/' :: rest => some ((Text.split '/' rest).map fun part => String.ofList (unescapeToken part))
  | _ => none

/-- The largest position that an item can have. -/
def maxIndex : Nat := Numeral.twoTo 64 - 1

/-- A plain number without leading zeros. -/
def index? (token : List Char) : Option Nat :=
  match token with
  | [] => none
  | '0' :: _ :: _ => none
  | digits =>
    if digits.all Char.isDigit then
      let value := digits.foldl (fun value c => value * 10 + (c.toNat - '0'.toNat)) 0
      if value ≤ maxIndex then some value else none
    else none

def step (value : Json) (token : String) : Option Json :=
  match value with
  | .object members => members.lookup token
  | .array items => (index? token.toList).bind fun index => items[index]?
  | _ => none

/-- The value that the tokens lead to. -/
def follow (value : Json) : List String → Option Json
  | [] => some value
  | token :: rest => (step value token).bind fun next => follow next rest

theorem unescapeToken_escapeToken (token : List Char) : unescapeToken (escapeToken token) = token := by
  induction token with
  | nil => rfl
  | cons c rest ih =>
    rw [escapeToken]
    split
    · next h => subst h; simp [unescapeToken, ih]
    split
    · next h => subst h; simp [unescapeToken, ih]
    · next h _ => simp [unescapeToken, ih, h]

end Compliance.Json.Pointer

namespace Compliance.Json

/-- The value that a pointer refers to. -/
def pointer? (value : Json) (pointer : String) : Option Json :=
  (Pointer.tokens? pointer.toList).bind (Pointer.follow value)

/-- The strings in the array that a pointer refers to; whatever else it refers to reads as empty. -/
def stringSet (value : Json) (pointer : String) : NameSet :=
  match value.pointer? pointer with
  | some (.array items) => NameSet.ofList (items.filterMap string?)
  | _ => NameSet.empty

end Compliance.Json
