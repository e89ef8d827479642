/-
Module: SecureShell.Digest.Sha1
Purpose: The digest SHA-1 and the message authentication code built on it, which hides host names in
  lists of known hosts.
Main exports: Digest.Sha1.digest, Digest.Sha1.authenticate
-/
import SecureShell.Digest.Block

namespace SecureShell.Digest.Sha1

/-- The chaining state. -/
structure State where
  a : UInt32
  b : UInt32
  c : UInt32
  d : UInt32
  e : UInt32
deriving DecidableEq, Repr

/-- The state before the first block. -/
def initial : State :=
  ⟨0x67452301, 0xefcdab89, 0x98badcfe, 0x10325476, 0xc3d2e1f0⟩

/-- The schedule that starts with a window of sixteen words, oldest first, and goes on for some steps. -/
def schedule : (steps : Nat) → (window : List UInt32) → List UInt32
  | 0, window => window
  | _ + 1, [] => []
  | steps + 1, oldest :: rest =>
      oldest :: schedule steps (rest ++
        [rotateLeft (oldest ^^^ rest.getD 1 0 ^^^ rest.getD 7 0 ^^^ rest.getD 12 0) 1])

/-- The mixing function and the constant of a round. -/
def mixing (index : Nat) (s : State) : UInt32 :=
  if index < 20 then ((s.b &&& s.c) ||| ((~~~s.b) &&& s.d)) + 0x5a827999
  else if index < 40 then (s.b ^^^ s.c ^^^ s.d) + 0x6ed9eba1
  else if index < 60 then ((s.b &&& s.c) ||| (s.b &&& s.d) ||| (s.c &&& s.d)) + 0x8f1bbcdc
  else (s.b ^^^ s.c ^^^ s.d) + 0xca62c1d6

/-- One round with its word. -/
def round (s : State) (step : UInt32 × Nat) : State :=
  ⟨rotateLeft s.a 5 + mixing step.2 s + s.e + step.1, s.a, rotateLeft s.b 30, s.c, s.d⟩

/-- The state after one block. -/
def compress (s : State) (block : Bytes) : State :=
  let t := (schedule 64 (words block)).zipIdx.foldl round s
  ⟨s.a + t.a, s.b + t.b, s.c + t.c, s.d + t.d, s.e + t.e⟩

/-- The twenty bytes of the digest. -/
def digest (message : Bytes) : Bytes :=
  let s := (blocks message).foldl compress initial
  [s.a, s.b, s.c, s.d, s.e].flatMap wordBytes

/-- A key brought to the length of a block: a longer key is replaced by its digest. -/
def blockKey (key : Bytes) : Bytes :=
  let short := if key.length > 64 then digest key else key
  short ++ List.replicate (64 - short.length) 0

/-- The authentication code of a message under a key. -/
def authenticate (key message : Bytes) : Bytes :=
  let whole := blockKey key
  digest (whole.map (· ^^^ 0x5c) ++ digest (whole.map (· ^^^ 0x36) ++ message))

end SecureShell.Digest.Sha1
