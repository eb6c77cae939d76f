import Compliance.Numeral.Binary64

/-!
JSON values. The members of an object are kept in ascending order of their keys without repetition, as
`insertMember` builds them: of two members with one key the later one stays.
-/

namespace Compliance

/-- A number stays an integer as long as it is written as one and fits 64 bits. -/
inductive JsonNumber where
  | integer (value : Int)
  | double (value : Numeral.Binary64)
  deriving DecidableEq, Repr

inductive Json where
  | null
  | boolean (value : Bool)
  | number (value : JsonNumber)
  | string (text : String)
  | array (items : List Json)
  | object (members : List (String × Json))
  deriving Repr

def JsonNumber.isZero : JsonNumber → Bool
  | .integer value => value == 0
  | .double value => value.isZero

namespace Json

instance : Inhabited Json := ⟨null⟩

/-- Puts a member at its place, in the stead of an earlier one with the same key. -/
def insertMember (key : String) (value : Json) : List (String × Json) → List (String × Json)
  | [] => [(key, value)]
  | (other, held) :: rest =>
    if key < other then (key, value) :: (other, held) :: rest
    else if key = other then (key, value) :: rest
    else (other, held) :: insertMember key value rest

/-- The object with these members, given in any order. -/
def ofMembers (members : List (String × Json)) : Json :=
  object (members.foldl (fun built member => insertMember member.1 member.2 built) [])

def strings (texts : List String) : Json := array (texts.map string)

def isObject : Json → Bool
  | object _ => true
  | _ => false

/-- The value of a member of an object. -/
def member? (key : String) : Json → Option Json
  | object members => members.lookup key
  | _ => none

def items? : Json → Option (List Json)
  | array items => some items
  | _ => none

def string? : Json → Option String
  | string text => some text
  | _ => none

/-- Null, false, zero and whatever is empty read as false, all else as true. -/
def truthy : Json → Bool
  | null => false
  | boolean value => value
  | number value => !value.isZero
  | string text => !text.isEmpty
  | array items => !items.isEmpty
  | object members => !members.isEmpty

end Json

end Compliance
