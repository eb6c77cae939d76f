import Compliance.Numeral.Binary64
import Compliance.Text.Position

/-!
Values of a TOML document. Every value and every key carries the span of text it comes from, so that a value of
the wrong shape can be shown in its place. The members of a table are in ascending order of their names.
-/

namespace Compliance

/-- A stretch of a document: how many bytes are left where it begins, and how many it takes. -/
structure Span where
  left : Nat
  length : Nat
  deriving DecidableEq, Repr

/-- The span from where `start` begins up to where `stop`, an end piece of it, begins. -/
def Span.between (start stop : List Char) : Span :=
  ⟨Text.byteLength start, Text.byteLength start - Text.byteLength stop⟩

namespace Toml

structure Key where
  name : String
  span : Span
  deriving DecidableEq, Repr

/-- A floating-point value; a number beyond the doubles is kept apart from the infinities. -/
inductive Real where
  | finite (value : Numeral.Binary64)
  | infinite (negative : Bool)
  | nan
  | overflow
  deriving DecidableEq, Repr

/-- What a value written without quotes and brackets is. -/
inductive Scalar where
  | boolean (value : Bool)
  | integer (value : Int)
  /-- Written like an integer, but with no digits or with some that its base does not have. -/
  | noInteger
  | real (value : Real)
  | datetime
  deriving DecidableEq, Repr

end Toml

inductive Toml where
  | string (span : Span) (text : String)
  | scalar (span : Span) (value : Toml.Scalar)
  | array (span : Span) (items : List Toml)
  | table (span : Span) (members : List (Toml.Key × Toml))
  deriving Repr

namespace Toml

instance : Inhabited Toml := ⟨array ⟨0, 0⟩ []⟩

def span : Toml → Span
  | string span _ => span
  | scalar span _ => span
  | array span _ => span
  | table span _ => span

end Toml

end Compliance
