/-
Module: SecureShell.Text.Decimal
Purpose: Whole numbers in decimal digits. A number is written without leading zeros; a port number is
  read from an optional plus sign and at least one digit, with any number of leading zeros, if its value
  fits in sixteen bits.
Main exports: Text.decimal, Port, Port.read?, Port.text, Port.read?_text
-/
import SecureShell.Text.Basic

namespace SecureShell

/-- The decimal digits of a number, without leading zeros. -/
def Text.decimal (value : Nat) : Text :=
  Nat.toDigits 10 value

/-- A port number of sixteen bits. -/
abbrev Port := UInt16

namespace Port

/-- The digits of a port number. -/
def text (port : Port) : Text :=
  Text.decimal port.toNat

/-- The value of a run of digits, if it fits in sixteen bits. -/
def ofDigits? (digits : Text) : Option Port :=
  let value := Nat.ofDigitChars 10 digits 0
  if fits : value < UInt16.size then some (UInt16.ofNatLT value fits) else none

/-- Reads an optional plus sign and one or more ASCII digits. -/
def read? (written : Text) : Option Port :=
  let digits := Text.afterOptional '+' written
  if digits ≠ [] ∧ digits.all Char.isDigit = true then ofDigits? digits else none

/-- A written port number reads back. -/
theorem read?_text (port : Port) : read? (text port) = some port := by
  have digits : ∀ c ∈ text port, c.isDigit = true := fun c member =>
    Nat.isDigit_of_mem_toDigits (by decide) (by decide) member
  have nonempty : text port ≠ [] := Nat.toDigits_ne_nil
  have unsigned : Text.afterOptional '+' (text port) = text port := by
    cases shape : text port with
    | nil => exact absurd shape nonempty
    | cons first rest =>
        have digit := digits first (by simp [shape])
        have notPlus : first ≠ '+' := by
          rintro rfl
          exact absurd digit (by decide)
        simp [Text.afterOptional, notPlus]
  have allDigits : (text port).all Char.isDigit = true := List.all_eq_true.mpr digits
  have value : Nat.ofDigitChars 10 (text port) 0 = port.toNat :=
    Nat.ofDigitChars_toDigits (by decide) (by decide)
  have fits : Nat.ofDigitChars 10 (text port) 0 < UInt16.size := by
    rw [value]
    exact port.toNat_lt
  simp only [read?, unsigned, ofDigits?]
  rw [if_pos ⟨nonempty, allDigits⟩, dif_pos fits]
  congr 1
  apply UInt16.toNat_inj.mp
  simp [value]

end Port

end SecureShell
