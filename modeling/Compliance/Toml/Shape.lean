import Compliance.Numeral.Shortest
import Compliance.Text.Inspected
import Compliance.Toml.Value

/-!
Values of the wrong shape: what was found where something else was expected, and the message that shows the line
of the document with the span underlined.
-/

namespace Compliance.Toml

open Numeral

/-- What is wrong with a value. -/
inductive Misfit where
  | wrongType (found expected : String)
  | missingField (name : String)
  | unknownField (name : String) (known : List String)
  | tooShort (length : Nat) (record : String) (fields : Nat)
  | integerOverflow
  | realOverflow
  deriving DecidableEq, Repr

structure ShapeFault where
  span : Span
  misfit : Misfit
  deriving DecidableEq, Repr

/-- Floating-point numbers are shown without an exponent; of two nearest digits the upper one is taken. -/
def realLayout : Layout := ⟨.up, fun _ => true⟩

def Real.shown? : Real → Option String
  | finite value => some (String.ofList (realLayout.text value))
  | infinite negative => some (if negative then "-inf" else "inf")
  | nan => some "NaN"
  | overflow => none

/-- An integer as it is shown, with the width it needs when that is more than 64 bits. -/
def shownInteger? (value : Int) : Option String :=
  let text := "integer `" ++ toString value ++ "`"
  if -(twoTo 63 : Int) ≤ value ∧ value < twoTo 64 then some text
  else if -(twoTo 127 : Int) ≤ value ∧ value < twoTo 127 then some (text ++ " as i128")
  else if 0 ≤ value ∧ value < twoTo 128 then some (text ++ " as u128")
  else none

/-- A value where something else is expected. -/
def Misfit.of (value : Toml) (expected : String) : Misfit :=
  match value with
  | .string _ text => .wrongType ("string " ++ Text.inspected text) expected
  | .array _ _ => .wrongType "sequence" expected
  | .table _ _ => .wrongType "map" expected
  | .scalar _ (.boolean true) => .wrongType "boolean `true`" expected
  | .scalar _ (.boolean false) => .wrongType "boolean `false`" expected
  | .scalar _ .datetime => .wrongType "map" expected
  | .scalar _ (.integer value) =>
    match shownInteger? value with
    | some shown => .wrongType shown expected
    | none => .integerOverflow
  | .scalar _ .noInteger => .integerOverflow
  | .scalar _ (.real value) =>
    match value.shown? with
    | some shown => .wrongType ("floating point `" ++ shown ++ "`") expected
    | none => .realOverflow

def ShapeFault.of (value : Toml) (expected : String) : ShapeFault := ⟨value.span, .of value expected⟩

/-- The names that a field can have, for a message. -/
def expectedNames (known : List String) : String :=
  let quoted := known.map fun name => "`" ++ name ++ "`"
  match quoted with
  | [] => "there are no fields"
  | [only] => "expected " ++ only
  | [first, second] => "expected " ++ first ++ " or " ++ second
  | many => "expected one of " ++ ", ".intercalate many

def Misfit.message : Misfit → String
  | wrongType found expected => "invalid type: " ++ found ++ ", expected " ++ expected
  | missingField name => "missing field `" ++ name ++ "`"
  | unknownField name known => "unknown field `" ++ name ++ "`, " ++ expectedNames known
  | tooShort length record fields =>
    "invalid length " ++ toString length ++ ", expected struct " ++ record ++ " with " ++
      toString fields ++ " elements"
  | integerOverflow => "integer number overflowed"
  | realOverflow => "floating-point number overflowed"

/-- The line of a document that a place is in: its number from zero, its characters, and how many of them are in
front of the place, which is `bytes` bytes behind the start of the line. -/
def lineAt (number : Nat) (line : List Char) (bytes column : Nat) : List Char → Nat × List Char × Nat
  | [] => (number, line.reverse, column)
  | c :: rest =>
    if bytes = 0 then (number, line.reverse ++ (c :: rest).takeWhile (· ≠ '\n'), column)
    else if c = '\n' then lineAt (number + 1) [] (bytes - 1) 0 rest
    else lineAt number (c :: line) (bytes - c.utf8Size) (column + 1) rest

def spaces (count : Nat) : String := String.ofList (List.replicate count ' ')

/-- The message with the line it is about. The underline ends with the line and has at least one mark. -/
def ShapeFault.message (fault : ShapeFault) (document : String) : String :=
  let text := document.toList
  let (number, line, column) := lineAt 0 [] (Text.byteLength text - fault.span.left) 0 text
  let label := toString (number + 1)
  let gutter := spaces (label.length + 1) ++ "|"
  let marks := max 1 (min fault.span.length (Text.byteLength line - column))
  "TOML parse error at line " ++ label ++ ", column " ++ toString (column + 1) ++ "\n" ++
    gutter ++ "\n" ++
    label ++ " | " ++ String.ofList line ++ "\n" ++
    gutter ++ " " ++ spaces column ++ String.ofList (List.replicate marks '^') ++ "\n" ++
    fault.misfit.message ++ "\n"

end Compliance.Toml
