import Compliance.Json.Numeric

/-!
Reading JSON text. Blanks are the space, the tab, the line feed and the carriage return; a text holds one
value and nothing behind it; containers nest at most 127 deep. `Json.read` is the whole reader, and `value`
the reader of one value at the front of a text, which returns what follows it.
-/

namespace Compliance.Json

def isBlank (c : Char) : Bool := c = ' ' || c = '\t' || c = '\n' || c = '\r'

def skipBlanks (rest : List Char) : List Char := rest.dropWhile isBlank

def hexValue? (c : Char) : Option Nat :=
  if c.isDigit then some (c.toNat - '0'.toNat)
  else if 'a' ≤ c ∧ c ≤ 'f' then some (c.toNat - 'a'.toNat + 10)
  else if 'A' ≤ c ∧ c ≤ 'F' then some (c.toNat - 'A'.toNat + 10)
  else none

/-- The value of four hexadecimal digits. -/
def hexQuad? : List Char → Option Nat
  | a :: b :: c :: d :: _ => do
    return (((← hexValue? a) * 16 + (← hexValue? b)) * 16 + (← hexValue? c)) * 16 + (← hexValue? d)
  | _ => none

/-- Four hexadecimal digits are four bytes: fewer bytes than that are an unfinished string, other ones are
blamed on their end. -/
def hexQuad (rest : List Char) : Except Fault Nat :=
  match hexQuad? rest with
  | some value => .ok value
  | none =>
    if Text.byteLength rest < 4 then .error (.on .eofString [])
    else .error ⟨.invalidEscape, Text.byteLength rest - 4⟩

def isHighSurrogate (unit : Nat) : Bool := 0xD800 ≤ unit && unit ≤ 0xDBFF

def isLowSurrogate (unit : Nat) : Bool := 0xDC00 ≤ unit && unit ≤ 0xDFFF

/-- What stands where a low surrogate has to: the second half of a pair, and no more than that. -/
def lowSurrogate (rest : List Char) : Except Fault Nat :=
  match rest with
  | '\\' :: 'u' :: digits => do
    let unit ← hexQuad digits
    if isLowSurrogate unit then .ok unit else .error (.before .loneSurrogate (digits.drop 4))
  | '\\' :: behind =>
    .error (.on (if behind.isEmpty then .eofString else .unfinishedSurrogatePair) behind)
  | _ => .error (.on (if rest.isEmpty then .eofString else .unfinishedSurrogatePair) rest)

/-- The character of a numeric escape whose digits begin here, and how many characters they take: four, or ten
for a surrogate pair. -/
def numericEscape (rest : List Char) : Except Fault (Char × Nat) := do
  let unit ← hexQuad rest
  if isLowSurrogate unit then .error (.before .loneSurrogate (rest.drop 4))
  else if isHighSurrogate unit then
    let low ← lowSurrogate (rest.drop 4)
    return (Char.ofNat (0x10000 + (unit - 0xD800) * 0x400 + (low - 0xDC00)), 10)
  else return (Char.ofNat unit, 4)

/-- The character that an escape stands for and how many characters it takes behind the backslash. -/
def escaped (rest : List Char) : Except Fault (Char × Nat) :=
  match rest with
  | [] => .error (.on .eofString [])
  | '"' :: _ => .ok ('"', 1)
  | '\\' :: _ => .ok ('\\', 1)
  | '/' :: _ => .ok ('/', 1)
  | 'b' :: _ => .ok ('\x08', 1)
  | 'f' :: _ => .ok ('\x0c', 1)
  | 'n' :: _ => .ok ('\n', 1)
  | 'r' :: _ => .ok ('\r', 1)
  | 't' :: _ => .ok ('\t', 1)
  | 'u' :: digits => do
    let (c, count) ← numericEscape digits
    return (c, count + 1)
  | _ => .error (.on .invalidEscape rest)

/-- The characters of a string up to its closing quote. The first argument counts the characters that belong
to an escape already read. -/
def stringBody : Nat → Parser (List Char)
  | _, [] => .error (.on .eofString [])
  | skip + 1, _ :: rest => stringBody skip rest
  | 0, c :: rest =>
    if c = '"' then .ok ([], rest)
    else if c = '\\' then do
      let (decoded, count) ← escaped rest
      let (body, rest) ← stringBody count rest
      return (decoded :: body, rest)
    else if c.toNat < 0x20 then .error (.on .controlCharacter (c :: rest))
    else do
      let (body, rest) ← stringBody 0 rest
      return (c :: body, rest)

/-- A string behind its opening quote. -/
def quotedString : Parser String := fun rest => do
  let (body, rest) ← stringBody 0 rest
  return (String.ofList body, rest)

/-- The rest of a literal name behind its first letter. -/
def literal (value : Json) : List Char → Parser Json
  | [], rest => .ok (value, rest)
  | _ :: _, [] => .error (.on .eofValue [])
  | expected :: more, c :: rest =>
    if c = expected then literal value more rest else .error (.on .expectedIdent (c :: rest))

/-- Items up to the closing bracket; `room` bounds how many there can be. -/
def itemsFrom (item : Parser Json) : Nat → Parser (List Json)
  | 0, rest => .error (.on .eofList rest)
  | room + 1, rest => do
    let (first, rest) ← item rest
    match skipBlanks rest with
    | [] => .error (.on .eofList [])
    | ']' :: rest => return ([first], rest)
    | ',' :: rest =>
      match skipBlanks rest with
      | [] => .error (.on .eofValue [])
      | ']' :: rest => .error (.on .trailingComma (']' :: rest))
      | next =>
        let (others, rest) ← itemsFrom item room next
        return (first :: others, rest)
    | rest => .error (.on .expectedListSeparator rest)

/-- An array behind its opening bracket. -/
def arrayBody (item : Parser Json) : Parser Json := fun rest =>
  match skipBlanks rest with
  | [] => .error (.on .eofList [])
  | ']' :: rest => .ok (array [], rest)
  | next => do
    let (items, rest) ← itemsFrom item (next.length + 1) next
    return (array items, rest)

/-- A member behind the opening quote of its key. -/
def member (item : Parser Json) : Parser (String × Json) := fun rest => do
  let (key, rest) ← quotedString rest
  match skipBlanks rest with
  | [] => .error (.on .eofObject [])
  | ':' :: rest =>
    let (value, rest) ← item rest
    return ((key, value), rest)
  | rest => .error (.on .expectedColon rest)

/-- Members up to the closing brace, the opening quote of the first key read already; `room` bounds how many
there can be. -/
def membersFrom (item : Parser Json) : Nat → Parser (List (String × Json))
  | 0, rest => .error (.on .eofObject rest)
  | room + 1, rest => do
    let (first, rest) ← member item rest
    match skipBlanks rest with
    | [] => .error (.on .eofObject [])
    | '\x7d' :: rest => return ([first], rest)
    | ',' :: rest =>
      match skipBlanks rest with
      | [] => .error (.on .eofValue [])
      | '"' :: next =>
        let (others, rest) ← membersFrom item room next
        return (first :: others, rest)
      | '\x7d' :: rest => .error (.on .trailingComma ('\x7d' :: rest))
      | rest => .error (.on .keyNotString rest)
    | rest => .error (.on .expectedMemberSeparator rest)

/-- An object behind its opening brace. -/
def objectBody (item : Parser Json) : Parser Json := fun rest =>
  match skipBlanks rest with
  | [] => .error (.on .eofObject [])
  | '\x7d' :: rest => .ok (object [], rest)
  | '"' :: next => do
    let (members, rest) ← membersFrom item (next.length + 1) next
    return (ofMembers members, rest)
  | rest => .error (.on .keyNotString rest)

/-- A value that is no container. -/
def scalar : Parser Json := fun rest =>
  match rest with
  | [] => .error (.on .eofValue [])
  | 'n' :: rest => literal null ['u', 'l', 'l'] rest
  | 't' :: rest => literal (boolean true) ['r', 'u', 'e'] rest
  | 'f' :: rest => literal (boolean false) ['a', 'l', 's', 'e'] rest
  | '"' :: rest => (quotedString rest).map fun (text, rest) => (string text, rest)
  | '-' :: rest => (unsignedNumber true rest).map fun (value, rest) => (number value, rest)
  | c :: _ =>
    if c.isDigit then (unsignedNumber false rest).map fun (value, rest) => (number value, rest)
    else .error (.on .expectedValue rest)

/-- One value at the front of a text, with at most `depth` containers around one another. -/
def value (depth : Nat) : Parser Json := fun rest =>
  match skipBlanks rest with
  | '[' :: rest =>
    match depth with
    | 0 => .error (.on .recursionLimit ('[' :: rest))
    | depth + 1 => arrayBody (value depth) rest
  | '\x7b' :: rest =>
    match depth with
    | 0 => .error (.on .recursionLimit ('\x7b' :: rest))
    | depth + 1 => objectBody (value depth) rest
  | rest => scalar rest

def maxDepth : Nat := 127

/-- A text that is one value. -/
def document (text : List Char) : Except Fault Json := do
  let (read, rest) ← value maxDepth text
  match skipBlanks rest with
  | [] => return read
  | rest => .error (.on .trailingCharacters rest)

/-- The value that a text holds, or why it holds none. -/
def read (text : String) : Except ReadError Json :=
  (document text.toList).mapError fun fault => fault.inText text.toList

end Compliance.Json
