/-
Module: SecureShell.Digest.Block
Purpose: What the digests share: a message is closed by a one bit, zeros and its length in bits, so that
  it fills blocks of sixty-four bytes, and a block is read as sixteen words of thirty-two bits, most
  significant byte first.
Main exports: Digest.padded, Digest.blocks, Digest.words, Digest.wordBytes, Digest.rotateLeft
-/
import SecureShell.Bytes.Utf8

namespace SecureShell.Digest

/-- The bytes of a number, most significant first. -/
def bigEndian : (width : Nat) → (value : Nat) → Bytes
  | 0, _ => []
  | width + 1, value => bigEndian width (value / 256) ++ [UInt8.ofNat (value % 256)]

/-- The message with its closing bit, zeros and length. -/
def padded (message : Bytes) : Bytes :=
  let zeros := (119 - message.length % 64) % 64
  message ++ 0x80 :: List.replicate zeros 0 ++ bigEndian 8 (8 * message.length)

/-- Pieces of sixty-four bytes, as many as asked for. -/
def chunks : (count : Nat) → Bytes → List Bytes
  | 0, _ => []
  | count + 1, bytes => bytes.take 64 :: chunks count (bytes.drop 64)

/-- The blocks of the closed message. -/
def blocks (message : Bytes) : List Bytes :=
  let closed := padded message
  chunks (closed.length / 64) closed

/-- Four bytes make a word, most significant byte first. -/
def words : Bytes → List UInt32
  | a :: b :: c :: d :: rest =>
      (a.toUInt32 <<< 24 ||| b.toUInt32 <<< 16 ||| c.toUInt32 <<< 8 ||| d.toUInt32) :: words rest
  | _ => []

/-- The four bytes of a word. -/
def wordBytes (word : UInt32) : Bytes :=
  bigEndian 4 word.toNat

/-- Turns the bits of a word to the left. -/
def rotateLeft (word : UInt32) (count : UInt32) : UInt32 :=
  word <<< count ||| word >>> (32 - count)

/-- Turns the bits of a word to the right. -/
def rotateRight (word : UInt32) (count : UInt32) : UInt32 :=
  word >>> count ||| word <<< (32 - count)

end SecureShell.Digest
