import Compliance.Text.Position

/-!
Why a text is not JSON, and where reading stopped. While reading, a fault remembers how many bytes were left;
the position is worked out once, against the whole text.
-/

namespace Compliance.Json

inductive Cause where
  | eofValue
  | eofObject
  | eofList
  | eofString
  | expectedValue
  | expectedIdent
  | expectedColon
  | expectedListSeparator
  | expectedMemberSeparator
  | keyNotString
  | trailingComma
  | trailingCharacters
  | invalidNumber
  | numberOutOfRange
  | invalidEscape
  | unfinishedSurrogatePair
  | loneSurrogate
  | controlCharacter
  | recursionLimit
  deriving DecidableEq, Repr

def Cause.message : Cause → String
  | eofValue => "EOF while parsing a value"
  | eofObject => "EOF while parsing an object"
  | eofList => "EOF while parsing a list"
  | eofString => "EOF while parsing a string"
  | expectedValue => "expected value"
  | expectedIdent => "expected ident"
  | expectedColon => "expected `:`"
  | expectedListSeparator => "expected `,` or `]`"
  | expectedMemberSeparator => "expected `,` or `\x7d`"
  | keyNotString => "key must be a string"
  | trailingComma => "trailing comma"
  | trailingCharacters => "trailing characters"
  | invalidNumber => "invalid number"
  | numberOutOfRange => "number out of range"
  | invalidEscape => "invalid escape"
  | unfinishedSurrogatePair => "unexpected end of hex escape"
  | loneSurrogate => "lone leading surrogate in hex escape"
  | controlCharacter => "control character (\\u0000-\\u001F) found while parsing a string"
  | recursionLimit => "recursion limit exceeded"

/-- A fault met with `left` bytes of the text behind the place it is blamed on. -/
structure Fault where
  cause : Cause
  left : Nat
  deriving DecidableEq, Repr

/-- The fault is blamed on the place where `rest` begins. -/
def Fault.before (cause : Cause) (rest : List Char) : Fault := ⟨cause, Text.byteLength rest⟩

/-- The fault is blamed on the first byte of `rest`, or on the end of the text. -/
def Fault.on (cause : Cause) (rest : List Char) : Fault := ⟨cause, Text.byteLength rest - 1⟩

/-- A fault with its place in the text. -/
structure ReadError where
  cause : Cause
  position : Text.Position
  deriving DecidableEq, Repr

def Fault.inText (fault : Fault) (text : List Char) : ReadError :=
  ⟨fault.cause, Text.Position.start.advance (Text.byteLength text - fault.left) text⟩

def ReadError.message (error : ReadError) : String :=
  error.cause.message ++ " at line " ++ toString error.position.line ++ " column " ++
    toString error.position.column

end Compliance.Json
