/-
Module: SecureShell.Bytes.Counted
Purpose: Runs of bytes with their count in front, as four bytes with the most significant first. They are
  read one after the other; what stands behind the last one that is wanted is left alone.
Main exports: Counted.count?, Counted.read?, Counted.readHead?
-/
import SecureShell.Bytes.Utf8

namespace SecureShell.Counted

/-- The most that a count may say. -/
def limit : Nat := 0xFFFFF

/-- The count in front, and the bytes behind it. -/
def count? : Bytes → Option (Nat × Bytes)
  | a :: b :: c :: d :: rest =>
      let count := ((a.toNat * 256 + b.toNat) * 256 + c.toNat) * 256 + d.toNat
      if count ≤ limit then some (count, rest) else none
  | _ => none

/-- The first `width` bytes behind a count that promises `promised` of them. -/
def cut? (width promised : Nat) (bytes : Bytes) : Option (Bytes × Bytes) :=
  if width ≤ promised ∧ width ≤ bytes.length then some (bytes.take width, bytes.drop width) else none

/-- The first run and the bytes behind it. -/
def read? (bytes : Bytes) : Option (Bytes × Bytes) := do
  let (count, rest) ← count? bytes
  cut? count count rest

/-- A run of which `width` bytes are wanted. The others that its count promises need not be there, and if
they are, they stay in front of what is read next. -/
def readHead? (width : Nat) (bytes : Bytes) : Option (Bytes × Bytes) := do
  let (count, rest) ← count? bytes
  cut? width count rest

example : read? [0, 0, 0, 2, 7, 8, 9] = some ([7, 8], [9]) := by decide
example : read? [0, 0, 0, 2, 7] = none := by decide
example : read? [0, 16, 0, 0] = none := by decide
example : readHead? 2 [0, 0, 0, 9, 7, 8, 9] = some ([7, 8], [9]) := by decide

end SecureShell.Counted
