/-
Module: SecureShell.Rehearsal.Preamble
Purpose: Lines that may come over a stream before the greeting of the peer. The reader of the greeting has
  room for a number of bytes; whenever these hold a line end it forgets all of them, so that the greeting
  is heard if nothing is left over in front of it.
Main exports: Preamble, Preamble.feed, Preamble.isClear
-/
import SecureShell.Bytes.Utf8

namespace SecureShell.Rehearsal

/-- What has come over a stream in front of the greeting: bytes that are left over, something that passes
for a greeting, or more than the reader can hold. -/
inductive Preamble where
  | leftOver (bytes : Bytes)
  | greeted
  | broken
deriving DecidableEq, Repr

namespace Preamble

/-- Nothing has come so far. -/
def empty : Preamble := .leftOver []

/-- How many bytes the reader of the greeting can hold. -/
def room : Nat := 256

/-- The byte of a line feed. -/
def lineFeed : UInt8 := 10

/-- Whether bytes hold a line end; a line feed that comes first is none. -/
def holdsLine (bytes : Bytes) : Bool :=
  (bytes.drop 1).contains lineFeed

/-- Whether bytes begin as a greeting does. -/
def looksLikeGreeting (bytes : Bytes) : Bool :=
  (Text.utf8 "SSH-2.0-".toList).isPrefixOf bytes || (Text.utf8 "SSH-1.99-".toList).isPrefixOf bytes

/-- Reads more bytes behind those that are left over. `fuel` bounds the steps. -/
def read : (fuel : Nat) → (held arrived : Bytes) → Preamble
  | 0, held, _ => .leftOver held
  | fuel + 1, held, arrived =>
      if arrived = [] then .leftOver held
      else
        let bytes := held ++ arrived.take (room - held.length)
        let rest := arrived.drop (room - held.length)
        if holdsLine bytes then
          if looksLikeGreeting bytes then .greeted else read fuel [] rest
        else if bytes.length < room then .leftOver bytes
        else .broken

/-- The preamble after more bytes have come; nothing is understood behind a greeting. -/
def feed (preamble : Preamble) (arrived : Bytes) : Preamble :=
  match preamble with
  | leftOver held => read (arrived.length + 1) held arrived
  | greeted => if arrived = [] then greeted else broken
  | broken => broken

/-- Whether the greeting of the peer will be heard. -/
def isClear (preamble : Preamble) : Bool :=
  preamble = .leftOver []

end Preamble

end SecureShell.Rehearsal
