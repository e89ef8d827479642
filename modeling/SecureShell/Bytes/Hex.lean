/-
Module: SecureShell.Bytes.Hex
Purpose: Bytes as pairs of small hexadecimal digits.
Main exports: Hex.encode, Hex.decode?
-/
import SecureShell.Bytes.Utf8

namespace SecureShell.Hex

/-- Two digits for one byte. -/
def digits (byte : UInt8) : Text :=
  [Nat.digitChar (byte.toNat / 16), Nat.digitChar (byte.toNat % 16)]

/-- Two digits for each byte. -/
def encode (bytes : Bytes) : Text :=
  bytes.flatMap digits

/-- The value of a hexadecimal digit of either case. -/
def value? (c : Char) : Option Nat :=
  if '0' ≤ c ∧ c ≤ '9' then some (c.toNat - '0'.toNat)
  else if 'a' ≤ c ∧ c ≤ 'f' then some (c.toNat - 'a'.toNat + 10)
  else if 'A' ≤ c ∧ c ≤ 'F' then some (c.toNat - 'A'.toNat + 10)
  else none

/-- The bytes of pairs of digits; nothing else is read. -/
def decode? : Text → Option Bytes
  | [] => some []
  | [_] => none
  | high :: low :: rest => do
      let upper ← value? high
      let lower ← value? low
      let bytes ← decode? rest
      pure (UInt8.ofNat (16 * upper + lower) :: bytes)

example : encode [0, 255, 26] = "00ff1a".toList := by decide
example : decode? "00Ff1a".toList = some [0, 255, 26] := by decide

end SecureShell.Hex
