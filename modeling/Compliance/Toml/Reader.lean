import Compliance.Toml.Draft
import Compliance.Toml.Lexeme
import Compliance.Toml.Scalar

/-!
Reading a TOML document: lines that assign a value to a key or begin a table. `read?` is nothing for a text that
is no document; why it is none is not told.
-/

namespace Compliance.Toml

/-- The characters of a value without quotes end here; a quote among them does not end them. -/
def endsBare (c : Char) : Bool :=
  isSpace c || c = '\n' || c = '\r' || c = ',' || c = ']' || c = '\x7d' || c = '#' || c = '=' ||
    c = '[' || c = '\x7b'

/-- Whether a value without quotes goes on behind blanks: any more words belong to it, a quoted string does not. -/
def goesOn (behind : List Char) : Bool := behind.head?.any fun c => !endsBare c && c ≠ '"' && c ≠ '\''

/-- The characters of a value without quotes, with the blanks between its words; `between` if the blanks here are
known to be between words. -/
def bareText (between : Bool) : List Char → List Char
  | [] => []
  | c :: rest =>
    if isSpace c then if between || goesOn (skipSpaces rest) then c :: bareText true rest else []
    else if endsBare c then []
    else c :: bareText false rest

def bareValue? (rest : List Char) : Option (Toml × List Char) := do
  let text := bareText false rest
  let value ← Scalar.ofText? text
  let behind := rest.drop text.length
  return (.scalar (.between rest behind) value, behind)

/-- What follows the sign between a key and its value. -/
def afterEquals? (rest : List Char) : Option (List Char) := (after? '=' (skipSpaces rest)).map skipSpaces

/-- What follows the sign between a key and its value inside braces, where both sides of it may hold newlines and
comments. -/
def afterEqualsAcrossLines? (rest : List Char) : Option (List Char) := do
  skipTrivia false (← after? '=' (← skipTrivia false rest))

/-- Items up to the closing bracket; `room` bounds how many there can be. -/
def itemsFrom (item : Parser Toml) : Nat → Parser (List Toml)
  | 0, _ => none
  | room + 1, rest => do
    match ← skipTrivia false rest with
    | ']' :: rest => return ([], rest)
    | rest =>
      let (first, rest) ← item rest
      match ← skipTrivia false rest with
      | ']' :: rest => return ([first], rest)
      | ',' :: rest =>
        let (others, rest) ← itemsFrom item room rest
        return (first :: others, rest)
      | _ => none

/-- Members up to the closing brace, added to those read already. -/
def membersFrom (item : Parser Toml) : Nat → Draft.Members → Parser Draft.Members
  | 0, _, _ => none
  | room + 1, members, rest => do
    match ← skipTrivia false rest with
    | '\x7d' :: rest => return (members, rest)
    | rest =>
      let ((path, key), rest) ← key? rest
      let (value, rest) ← item (← afterEqualsAcrossLines? rest)
      let members ← Draft.assign path key value .stated members
      match ← skipTrivia false rest with
      | '\x7d' :: rest => return (members, rest)
      | ',' :: rest => membersFrom item room members rest
      | _ => none

/-- A value at the front of a text, with at most `depth` containers around one another. -/
def value? (depth : Nat) : Parser Toml := fun rest =>
  match rest with
  | '[' :: body =>
    match depth with
    | 0 => none
    | depth + 1 => do
      let (items, behind) ← itemsFrom (value? depth) rest.length body
      return (.array (.between rest behind) items, behind)
  | '\x7b' :: body =>
    match depth with
    | 0 => none
    | depth + 1 => do
      let (members, behind) ← membersFrom (value? depth) rest.length [] body
      return (.table (.between rest behind) (Draft.memberValues members), behind)
  | '"' :: _ | '\'' :: _ =>
    (quotedString? rest).map fun (text, behind) => (.string (.between rest behind) text, behind)
  | _ => bareValue? rest

def maxDepth : Nat := 80

/-- The tables read so far, and the path of the one that the next assignment goes to. -/
structure Progress where
  path : List Key
  members : Draft.Members

/-- A header: of a table, or with two brackets of one more table in an array. -/
def header (progress : Progress) (rest : List Char) : Option (Progress × List Char) :=
  match rest with
  | '[' :: '[' :: body => do
    let ((path, key), behind) ← key? (skipSpaces body)
    let behind ← after? ']' (← after? ']' (skipSpaces behind))
    let members ← Draft.stateRow (.between rest behind) path key .stated progress.members
    return (⟨path ++ [key], members⟩, behind)
  | '[' :: body => do
    let ((path, key), behind) ← key? (skipSpaces body)
    let behind ← after? ']' (skipSpaces behind)
    let members ← Draft.stateTable (.between rest behind) path key .stated progress.members
    return (⟨path ++ [key], members⟩, behind)
  | _ => none

def assignment (progress : Progress) (rest : List Char) : Option (Progress × List Char) := do
  let ((path, key), rest) ← key? rest
  let (value, rest) ← value? maxDepth (← afterEquals? rest)
  let members ← Draft.within false (Draft.assign path key value) progress.path .stated progress.members
  return (⟨progress.path, members⟩, rest)

/-- The lines of a document; `room` bounds how many there can be. -/
def lines : Nat → Progress → List Char → Option Progress
  | 0, _, _ => none
  | room + 1, progress, rest => do
    match ← skipTrivia false rest with
    | [] => return progress
    | '[' :: rest =>
      let (progress, rest) ← header progress ('[' :: rest)
      lines room progress (← afterLine? (skipSpaces rest))
    | rest =>
      let (progress, rest) ← assignment progress rest
      lines room progress (← afterLine? (skipSpaces rest))

/-- The table that a document is; a byte order mark in front of it is skipped. -/
def read? (text : String) : Option Toml := do
  let document := text.toList
  let body := match document with
    | '\uFEFF' :: body => body
    | body => body
  let progress ← lines (body.length + 1) ⟨[], []⟩ body
  return .table ⟨Text.byteLength document, 0⟩ (Draft.memberValues progress.members)

end Compliance.Toml
