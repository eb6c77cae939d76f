/-!
Positions in a text, for messages that say where reading stopped. Lines count from one; a column is the
number of bytes since the last line feed, so a position may lie inside a character.
-/

namespace Compliance.Text

structure Position where
  line : Nat
  column : Nat
  deriving DecidableEq, Repr

namespace Position

/-- Where a text begins. -/
def start : Position := ⟨1, 0⟩

/-- The position that is `bytes` bytes further on in the characters that follow. -/
def advance (position : Position) (bytes : Nat) : List Char → Position
  | [] => position
  | c :: rest =>
    if bytes < c.utf8Size then { position with column := position.column + bytes }
    else if c = '\n' then (Position.mk (position.line + 1) 0).advance (bytes - 1) rest
    else (Position.mk position.line (position.column + c.utf8Size)).advance (bytes - c.utf8Size) rest

end Position

/-- The number of bytes that the characters take in a document. -/
def byteLength (text : List Char) : Nat := text.foldr (fun c bytes => c.utf8Size + bytes) 0

end Compliance.Text
