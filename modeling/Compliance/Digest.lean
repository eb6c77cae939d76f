/-!
SHA-256 digests of document contents, in lower-case hexadecimal.
-/

namespace Compliance.Digest

/-- The fractional parts of the cube roots of the first sixty-four primes. -/
def roundConstants : List UInt32 :=
  [0x428a2f98, 0x71374491, 0xb5c0fbcf, 0xe9b5dba5, 0x3956c25b, 0x59f111f1, 0x923f82a4, 0xab1c5ed5,
   0xd807aa98, 0x12835b01, 0x243185be, 0x550c7dc3, 0x72be5d74, 0x80deb1fe, 0x9bdc06a7, 0xc19bf174,
   0xe49b69c1, 0xefbe4786, 0x0fc19dc6, 0x240ca1cc, 0x2de92c6f, 0x4a7484aa, 0x5cb0a9dc, 0x76f988da,
   0x983e5152, 0xa831c66d, 0xb00327c8, 0xbf597fc7, 0xc6e00bf3, 0xd5a79147, 0x06ca6351, 0x14292967,
   0x27b70a85, 0x2e1b2138, 0x4d2c6dfc, 0x53380d13, 0x650a7354, 0x766a0abb, 0x81c2c92e, 0x92722c85,
   0xa2bfe8a1, 0xa81a664b, 0xc24b8b70, 0xc76c51a3, 0xd192e819, 0xd6990624, 0xf40e3585, 0x106aa070,
   0x19a4c116, 0x1e376c08, 0x2748774c, 0x34b0bcb5, 0x391c0cb3, 0x4ed8aa4a, 0x5b9cca4f, 0x682e6ff3,
   0x748f82ee, 0x78a5636f, 0x84c87814, 0x8cc70208, 0x90befffa, 0xa4506ceb, 0xbef9a3f7, 0xc67178f2]

structure State where
  a : UInt32
  b : UInt32
  c : UInt32
  d : UInt32
  e : UInt32
  f : UInt32
  g : UInt32
  h : UInt32
  deriving DecidableEq

/-- The fractional parts of the square roots of the first eight primes. -/
def State.initial : State :=
  ⟨0x6a09e667, 0xbb67ae85, 0x3c6ef372, 0xa54ff53a, 0x510e527f, 0x9b05688c, 0x1f83d9ab, 0x5be0cd19⟩

def State.add (first second : State) : State :=
  ⟨first.a + second.a, first.b + second.b, first.c + second.c, first.d + second.d,
   first.e + second.e, first.f + second.f, first.g + second.g, first.h + second.h⟩

def State.words (state : State) : List UInt32 :=
  [state.a, state.b, state.c, state.d, state.e, state.f, state.g, state.h]

def rotateRight (word amount : UInt32) : UInt32 := (word >>> amount) ||| (word <<< (32 - amount))

/-- One more word at the end of the message schedule, made from four of the sixteen before it. -/
def extendSchedule (words : Array UInt32) : Array UInt32 :=
  let fifteenth := words.getD (words.size - 15) 0
  let second := words.getD (words.size - 2) 0
  let low := rotateRight fifteenth 7 ^^^ rotateRight fifteenth 18 ^^^ (fifteenth >>> 3)
  let high := rotateRight second 17 ^^^ rotateRight second 19 ^^^ (second >>> 10)
  words.push (words.getD (words.size - 16) 0 + low + words.getD (words.size - 7) 0 + high)

def round (state : State) (constant word : UInt32) : State :=
  let high := rotateRight state.e 6 ^^^ rotateRight state.e 11 ^^^ rotateRight state.e 25
  let choice := (state.e &&& state.f) ^^^ ((~~~state.e) &&& state.g)
  let first := state.h + high + choice + constant + word
  let low := rotateRight state.a 2 ^^^ rotateRight state.a 13 ^^^ rotateRight state.a 22
  let majority := (state.a &&& state.b) ^^^ (state.a &&& state.c) ^^^ (state.b &&& state.c)
  ⟨first + (low + majority), state.a, state.b, state.c, state.d + first, state.e, state.f, state.g⟩

/-- One block of sixteen words taken into the state. -/
def compress (state : State) (block : Array UInt32) : State :=
  let schedule := (List.range 48).foldl (fun words _ => extendSchedule words) block
  state.add <|
    (roundConstants.zip schedule.toList).foldl (fun state (constant, word) => round state constant word) state

/-- A length in bits as eight bytes, the most significant first. -/
def lengthBytes (bits : Nat) : List UInt8 :=
  (List.range 8).map fun index => UInt8.ofNat (bits >>> (8 * (7 - index)))

/-- A one bit, zeros, and the length, so that the whole is a number of blocks. -/
def padding (length : Nat) : List UInt8 :=
  0x80 :: (List.replicate ((119 - length % 64) % 64) 0 ++ lengthBytes (8 * length))

def wordAt (bytes : Array UInt8) (start : Nat) : UInt32 :=
  (List.range 4).foldl (fun word offset => (word <<< 8) ||| (bytes.getD (start + offset) 0).toUInt32) 0

def blockAt (bytes : Array UInt8) (start : Nat) : Array UInt32 :=
  ((List.range 16).map fun index => wordAt bytes (start + 4 * index)).toArray

def sha256 (bytes : Array UInt8) : List UInt32 :=
  let padded := bytes ++ (padding bytes.size).toArray
  ((List.range (padded.size / 64)).foldl
    (fun state index => compress state (blockAt padded (64 * index))) State.initial).words

/-- A word as eight hexadecimal digits. -/
def hexWord (word : UInt32) : List Char :=
  (List.range 8).map fun index => ((word.toNat >>> (4 * (7 - index))) % 16).digitChar

/-- The digest of a text as it is stored. -/
def ofText (text : String) : String :=
  String.ofList ((sha256 text.toUTF8.data).flatMap hexWord)

end Compliance.Digest
