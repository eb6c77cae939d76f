import Compliance.Toml.Value

/-!
The pieces a TOML document is written with: blanks and comments, quoted strings, and keys. A reader returns what
it read and the text behind it, or nothing when the text is not well formed.
-/

namespace Compliance.Toml

/-- A reader takes something off the front of a text and returns it with what follows. -/
abbrev Parser (α : Type) := List Char → Option (α × List Char)

def isSpace (c : Char) : Bool := c = ' ' || c = '\t'

def skipSpaces (rest : List Char) : List Char := rest.dropWhile isSpace

/-- Control characters other than the tab stand nowhere in a document but at the end of a line. -/
def isPlain (c : Char) : Bool := c = '\t' || (0x20 ≤ c.toNat && c.toNat ≠ 0x7f)

/-- What follows a line feed, or a carriage return and a line feed. -/
def afterNewline? : List Char → Option (List Char)
  | '\n' :: rest => some rest
  | '\r' :: '\n' :: rest => some rest
  | _ => none

/-- What follows the comment that may stand here and the end of the line. -/
def afterLine? (rest : List Char) : Option (List Char) :=
  let behind := match rest with
    | '#' :: comment => comment.dropWhile isPlain
    | rest => rest
  match behind with
  | [] => some []
  | behind => afterNewline? behind

/-- Blanks, newlines and comments left out; a comment left open goes on to the end of its line. -/
def skipTrivia (comment : Bool) : List Char → Option (List Char)
  | [] => some []
  | c :: rest =>
    if c = '\n' then skipTrivia false rest
    else if c = '\r' then if rest.head? = some '\n' then skipTrivia comment rest else none
    else if comment then if isPlain c then skipTrivia true rest else none
    else if c = '#' then skipTrivia true rest
    else if isSpace c then skipTrivia false rest
    else some (c :: rest)

def hexDigit? (c : Char) : Option Nat :=
  if c.isDigit then some (c.toNat - '0'.toNat)
  else if 'a' ≤ c ∧ c ≤ 'f' then some (c.toNat - 'a'.toNat + 10)
  else if 'A' ≤ c ∧ c ≤ 'F' then some (c.toNat - 'A'.toNat + 10)
  else none

/-- The character whose number stands in `count` hexadecimal digits. -/
def numberedChar? (count : Nat) (rest : List Char) : Option Char := do
  let digits := rest.take count
  if digits.length < count then none
  else
    let value ← digits.foldlM (fun value c => (hexDigit? c).map (value * 16 + ·)) 0
    if h : value.isValidChar then some (Char.ofNatAux value h) else none

/-- The character that an escape stands for, and how many characters it takes behind the backslash. -/
def escape? : List Char → Option (Char × Nat)
  | 'b' :: _ => some ('\x08', 1)
  | 't' :: _ => some ('\t', 1)
  | 'n' :: _ => some ('\n', 1)
  | 'f' :: _ => some ('\x0c', 1)
  | 'r' :: _ => some ('\r', 1)
  | 'e' :: _ => some ('\x1b', 1)
  | '"' :: _ => some ('"', 1)
  | '\\' :: _ => some ('\\', 1)
  | 'x' :: digits => (numberedChar? 2 digits).map fun c => (c, 3)
  | 'u' :: digits => (numberedChar? 4 digits).map fun c => (c, 5)
  | 'U' :: digits => (numberedChar? 8 digits).map fun c => (c, 9)
  | _ => none

/-- A string on one line behind its opening quote. The first argument counts the characters that belong to an
escape already read. -/
def basicBody : Nat → Parser (List Char)
  | _, [] => none
  | skip + 1, _ :: rest => basicBody skip rest
  | 0, c :: rest =>
    if c = '"' then some ([], rest)
    else if c = '\\' then do
      let (decoded, count) ← escape? rest
      let (body, rest) ← basicBody count rest
      return (decoded :: body, rest)
    else if isPlain c then (basicBody 0 rest).map fun (body, rest) => (c :: body, rest)
    else none

/-- A literal string on one line behind its opening quote: nothing in it is an escape. -/
def literalBody : Parser (List Char)
  | [] => none
  | c :: rest =>
    if c = '\'' then some ([], rest)
    else if isPlain c then (literalBody rest).map fun (body, rest) => (c :: body, rest)
    else none

/-- Three quotes close a string of several lines; up to two more in front of them belong to the string. -/
def closing? (quote : Char) (rest : List Char) : Option (List Char × List Char) :=
  let count := (rest.takeWhile (· = quote)).length
  if count < 3 then none
  else
    let kept := min (count - 3) 2
    some (List.replicate kept quote, rest.drop (kept + 3))

/-- Blanks and newlines left out. -/
def skipBlankLines : List Char → List Char
  | [] => []
  | c :: rest =>
    if isSpace c || c = '\n' || (c = '\r' && rest.head? = some '\n') then skipBlankLines rest
    else c :: rest

/-- How many blanks and newlines a backslash at the end of a line takes away with it. -/
def continuation? (rest : List Char) : Option Nat :=
  (afterNewline? (skipSpaces rest)).map fun behind => rest.length - (skipBlankLines behind).length

/-- A string of several lines behind its opening quotes. -/
def basicLines : Nat → Parser (List Char)
  | _, [] => none
  | skip + 1, _ :: rest => basicLines skip rest
  | 0, c :: rest =>
    match closing? '"' (c :: rest) with
    | some closed => some closed
    | none =>
      if c = '\\' then
        match continuation? rest with
        | some count => basicLines count rest
        | none => do
          let (decoded, count) ← escape? rest
          let (body, rest) ← basicLines count rest
          return (decoded :: body, rest)
      else if isPlain c || c = '\n' || (c = '\r' && rest.head? = some '\n') then
        (basicLines 0 rest).map fun (body, rest) => (c :: body, rest)
      else none

/-- A literal string of several lines behind its opening quotes. -/
def literalLines : Parser (List Char)
  | [] => none
  | c :: rest =>
    match closing? '\'' (c :: rest) with
    | some closed => some closed
    | none =>
      if isPlain c || c = '\n' || (c = '\r' && rest.head? = some '\n') then
        (literalLines rest).map fun (body, rest) => (c :: body, rest)
      else none

/-- A newline right behind the opening quotes is not part of the string. -/
def trimNewline (rest : List Char) : List Char := (afterNewline? rest).getD rest

/-- A quoted string with its quotes. -/
def quotedString? (rest : List Char) : Option (String × List Char) :=
  let body? : Option (List Char × List Char) := match rest with
    | '"' :: '"' :: '"' :: body => basicLines 0 (trimNewline body)
    | '\'' :: '\'' :: '\'' :: body => literalLines (trimNewline body)
    | '"' :: body => basicBody 0 body
    | '\'' :: body => literalBody body
    | _ => none
  body?.map fun (body, rest) => (String.ofList body, rest)

def isBareKeyChar (c : Char) : Bool := c.isAlphanum || c = '_' || c = '-'

/-- A part of a key: bare, or quoted on one line. -/
def simpleKey? (rest : List Char) : Option (Key × List Char) :=
  let named? : Option (String × List Char) := match rest with
    | '"' :: body => (basicBody 0 body).map fun (body, rest) => (String.ofList body, rest)
    | '\'' :: body => (literalBody body).map fun (body, rest) => (String.ofList body, rest)
    | _ =>
      let name := rest.takeWhile isBareKeyChar
      if name.isEmpty then none else some (String.ofList name, rest.dropWhile isBareKeyChar)
  named?.map fun (name, behind) => (⟨name, .between rest behind⟩, behind)

/-- The parts of a key, which are joined by points; `room` bounds how many there can be. -/
def keyParts : Nat → Parser (List Key)
  | 0, _ => none
  | room + 1, rest => do
    let (first, rest) ← simpleKey? rest
    match skipSpaces rest with
    | '.' :: more =>
      let (others, rest) ← keyParts room (skipSpaces more)
      return (first :: others, rest)
    | rest => return ([first], rest)

/-- The most parts that a key can have. -/
def maxKeyParts : Nat := 80

/-- A key as the parts in front of its last one, and the last one. -/
def key? (rest : List Char) : Option ((List Key × Key) × List Char) := do
  let (parts, rest) ← keyParts rest.length rest
  let last ← parts.getLast?
  if parts.length ≤ maxKeyParts then some ((parts.dropLast, last), rest) else none

end Compliance.Toml
