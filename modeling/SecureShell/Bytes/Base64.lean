/-
Module: SecureShell.Bytes.Base64
Purpose: Reading of padded base64. Carriage returns and line feeds are passed over; the other characters
  come in groups of four; one or two padding marks may close a group, and the bits that they leave unused
  have to be zero.
Main exports: Base64.decode?
-/
import SecureShell.Bytes.Utf8

namespace SecureShell.Base64

/-- The six bits that a character of the alphabet stands for. -/
def value? (c : Char) : Option Nat :=
  if 'A' ≤ c ∧ c ≤ 'Z' then some (c.toNat - 'A'.toNat)
  else if 'a' ≤ c ∧ c ≤ 'z' then some (c.toNat - 'a'.toNat + 26)
  else if '0' ≤ c ∧ c ≤ '9' then some (c.toNat - '0'.toNat + 52)
  else if c = '+' then some 62
  else if c = '/' then some 63
  else none

/-- The bytes of one group of four characters. -/
def group? (first second third fourth : Char) : Option Bytes := do
  let a ← value? first
  let b ← value? second
  if third = '=' then
    if fourth = '=' ∧ b % 16 = 0 then some [UInt8.ofNat (a * 4 + b / 16)] else none
  else
    let c ← value? third
    if fourth = '=' then
      if c % 4 = 0 then
        some [UInt8.ofNat (a * 4 + b / 16), UInt8.ofNat (b % 16 * 16 + c / 4)]
      else none
    else
      let d ← value? fourth
      some [UInt8.ofNat (a * 4 + b / 16), UInt8.ofNat (b % 16 * 16 + c / 4),
        UInt8.ofNat (c % 4 * 64 + d)]

/-- The bytes of complete groups. -/
def groups? : Text → Option Bytes
  | [] => some []
  | first :: second :: third :: fourth :: rest => do
      let bytes ← group? first second third fourth
      let others ← groups? rest
      pure (bytes ++ others)
  | _ => none

/-- The bytes of a base64 text with its line ends passed over. -/
def decode? (text : Text) : Option Bytes :=
  groups? (text.filter fun c => c ≠ '\r' ∧ c ≠ '\n')

example : decode? "Zm9v\r\nYg==".toList = some [102, 111, 111, 98] := by decide
example : decode? "Zm9vYh==".toList = none := by decide
example : decode? "Zg=".toList = none := by decide

end SecureShell.Base64
