/-
Module: SecureShell.Proofs.PortNumbers
Purpose: What a written port number is, and that it is read with its exact value. A numeral is an optional plus sign
  and one or more decimal digits, each of which counts at its own power of ten; leading zeros count for nothing. A
  register of sixteen bits that takes the digits one by one, and gives up at the first step that does not fit,
  comes to the same: where no step overflows the value is exact, and where one does the value is too large.
Main exports: Port.digitValue, Port.valueOf, Port.Numeral, Port.IsNumeral, Port.shift?, Port.read?_eq_some_iff,
  Port.read?_isSome_iff, Port.forall_read?_eq_zero_iff, Port.foldlM_shift?
-/
import Mathlib.Data.Nat.Digits.Defs
import SecureShell.Text.Decimal

namespace SecureShell.Port

/-! ### Numerals -/

/-- The number that a digit stands for. -/
def digitValue (c : Char) : Nat :=
  c.toNat - '0'.toNat

/-- The number that decimal digits stand for, the last one for ones. -/
def valueOf (digits : Text) : Nat :=
  Nat.ofDigits 10 (digits.map digitValue).reverse

/-- A numeral with its value: one or more digits, with or without a plus sign in front. -/
inductive Numeral : Text → Nat → Prop where
  | unsigned {digits : Text} (nonempty : digits ≠ []) (numeric : ∀ c ∈ digits, c.isDigit = true) :
      Numeral digits (valueOf digits)
  | signed {digits : Text} (nonempty : digits ≠ []) (numeric : ∀ c ∈ digits, c.isDigit = true) :
      Numeral ('+' :: digits) (valueOf digits)

/-- A numeral whose value fits in sixteen bits. -/
def IsNumeral (written : Text) : Prop :=
  ∃ value, Numeral written value ∧ value ≤ 65535

theorem afterOptional_of_digits {digits : Text} (numeric : ∀ c ∈ digits, c.isDigit = true) :
    Text.afterOptional '+' digits = digits := by
  cases digits with
  | nil => rfl
  | cons first rest =>
      have notPlus : first ≠ '+' := by
        rintro rfl
        exact absurd (numeric '+' List.mem_cons_self) (by decide)
      rw [Text.afterOptional, if_neg notPlus]

/-- A numeral is told by what stands behind the sign. -/
theorem numeral_iff {written : Text} {value : Nat} :
    Numeral written value ↔ Text.afterOptional '+' written ≠ [] ∧
      (∀ c ∈ Text.afterOptional '+' written, c.isDigit = true) ∧
        value = valueOf (Text.afterOptional '+' written) := by
  constructor
  · intro numeral
    cases numeral with
    | unsigned nonempty numeric =>
        rw [afterOptional_of_digits numeric]
        exact ⟨nonempty, numeric, rfl⟩
    | signed nonempty numeric => exact ⟨nonempty, numeric, rfl⟩
  · rintro ⟨nonempty, numeric, rfl⟩
    cases written with
    | nil => exact absurd rfl nonempty
    | cons first rest =>
        by_cases plus : first = '+'
        · subst plus
          exact .signed nonempty numeric
        · have same : Text.afterOptional '+' (first :: rest) = first :: rest := by
            rw [Text.afterOptional, if_neg plus]
          rw [same] at nonempty numeric ⊢
          exact .unsigned nonempty numeric

theorem Numeral.unique {written : Text} {value other : Nat} (numeral : Numeral written value)
    (again : Numeral written other) : value = other := by
  obtain ⟨-, -, rfl⟩ := numeral_iff.mp numeral
  obtain ⟨-, -, rfl⟩ := numeral_iff.mp again
  rfl

/-- Taking digits in one by one adds their value behind what is held already. -/
theorem ofDigitChars_eq (digits : Text) (held : Nat) :
    Nat.ofDigitChars 10 digits held = held * 10 ^ digits.length + valueOf digits := by
  induction digits generalizing held with
  | nil => simp [valueOf]
  | cons c rest ih =>
      have first : valueOf (c :: rest) = valueOf rest + 10 ^ rest.length * digitValue c := by
        rw [valueOf, List.map_cons, Nat.ofDigits_reverse_cons, List.length_map, valueOf]
      rw [Nat.ofDigitChars_cons, ih, first, digitValue, List.length_cons, pow_succ]
      ring

/-! ### Reading -/

/-- The number in sixteen bits, if it fits. -/
def fit? (value : Nat) : Option Port :=
  if value ≤ 65535 then some (UInt16.ofNat value) else none

theorem fit?_eq_some_iff {value : Nat} {port : Port} : fit? value = some port ↔ value = port.toNat := by
  have bound : port.toNat < 65536 := port.toNat_lt
  unfold fit?
  split
  · next fits =>
    have exact : (UInt16.ofNat value).toNat = value := UInt16.toNat_ofNat_of_lt' (Nat.lt_succ_of_le fits)
    rw [Option.some.injEq, ← UInt16.toNat_inj, exact]
  · next large =>
    constructor
    · intro fits
      cases fits
    · intro same
      omega

theorem fit?_eq_none_iff {value : Nat} : fit? value = none ↔ 65535 < value := by
  simp [fit?]

theorem fit?_isSome_iff {value : Nat} : (fit? value).isSome = true ↔ value ≤ 65535 := by
  simp [Option.isSome_iff_ne_none, fit?_eq_none_iff]

theorem ofDigits?_eq (digits : Text) : ofDigits? digits = fit? (valueOf digits) := by
  have exact : Nat.ofDigitChars 10 digits 0 = valueOf digits := by
    rw [ofDigitChars_eq, Nat.zero_mul, Nat.zero_add]
  simp only [ofDigits?, fit?, exact, UInt16.size]
  split
  · next fits =>
    rw [if_pos (Nat.le_of_lt_succ fits), UInt16.ofNatLT_eq_ofNat]
  · next large => rw [if_neg (by omega)]

/-- A numeral is read as what its value is in sixteen bits, and nothing else is read. -/
theorem Numeral.read?_eq {written : Text} {value : Nat} (numeral : Numeral written value) :
    read? written = fit? value := by
  obtain ⟨nonempty, numeric, rfl⟩ := numeral_iff.mp numeral
  simp only [read?]
  rw [if_pos ⟨nonempty, List.all_eq_true.mpr numeric⟩, ofDigits?_eq]

theorem exists_numeral_of_read? {written : Text} {port : Port} (read : read? written = some port) :
    ∃ value, Numeral written value := by
  simp only [read?] at read
  split at read
  · next digits => exact ⟨_, numeral_iff.mpr ⟨digits.1, List.all_eq_true.mp digits.2, rfl⟩⟩
  · cases read

/-- A text is read as a port number exactly if it is a numeral with the value of that number. -/
theorem read?_eq_some_iff {written : Text} {port : Port} : read? written = some port ↔ Numeral written port.toNat := by
  constructor
  · intro read
    obtain ⟨value, numeral⟩ := exists_numeral_of_read? read
    rw [numeral.read?_eq, fit?_eq_some_iff] at read
    exact read ▸ numeral
  · intro numeral
    rw [numeral.read?_eq, fit?_eq_some_iff]

theorem read?_isSome_iff {written : Text} : (read? written).isSome = true ↔ IsNumeral written := by
  constructor
  · intro read
    obtain ⟨port, read⟩ := Option.isSome_iff_exists.mp read
    exact ⟨port.toNat, read?_eq_some_iff.mp read, Nat.le_of_lt_succ port.toNat_lt⟩
  · rintro ⟨value, numeral, fits⟩
    rw [numeral.read?_eq]
    exact fit?_isSome_iff.mpr fits

theorem one_le_toNat {port : Port} : 1 ≤ port.toNat ↔ port ≠ 0 := by
  rw [Nat.one_le_iff_ne_zero, Ne, Ne, ← UInt16.toNat_inj]
  rfl

/-- Nothing but zero is read exactly if there is no numeral whose value is in range. -/
theorem forall_read?_eq_zero_iff {written : Text} : (∀ port, read? written = some port → port = 0) ↔
    ¬ ∃ value, Numeral written value ∧ 1 ≤ value ∧ value ≤ 65535 := by
  constructor
  · rintro zero ⟨value, numeral, positive, fits⟩
    obtain ⟨port, read⟩ := Option.isSome_iff_exists.mp (read?_isSome_iff.mpr ⟨value, numeral, fits⟩)
    obtain rfl := numeral.unique (read?_eq_some_iff.mp read)
    exact one_le_toNat.mp positive (zero port read)
  · intro nothing port read
    by_contra nonzero
    exact nothing ⟨port.toNat, read?_eq_some_iff.mp read, one_le_toNat.mpr nonzero, Nat.le_of_lt_succ port.toNat_lt⟩

/-! ### Sixteen bits -/

/-- Takes one more digit into a register of sixteen bits: ten times what it holds, and then the digit. Neither may
leave the sixteen bits. -/
def shift? (held : Port) (c : Char) : Option Port :=
  (fit? (held.toNat * 10)).bind fun tens => fit? (tens.toNat + digitValue c)

/-- A step of the register does not fit exactly if what it comes to does not. -/
theorem shift?_eq (held : Port) (c : Char) : shift? held c = fit? (10 * held.toNat + digitValue c) := by
  unfold shift?
  cases fits : fit? (held.toNat * 10) with
  | some tens =>
      rw [fit?_eq_some_iff] at fits
      rw [Option.bind_some, ← fits, Nat.mul_comm]
  | none =>
      have large := fit?_eq_none_iff.mp fits
      rw [Option.bind_none, fit?_eq_none_iff.mpr (by omega)]

/-- Digits that are taken into the register one by one come to their value, or leave the register because their value
does: what has become too large never becomes small again. -/
theorem foldlM_shift? (digits : Text) (held : Port) :
    digits.foldlM shift? held = fit? (Nat.ofDigitChars 10 digits held.toNat) := by
  induction digits generalizing held with
  | nil => exact (fit?_eq_some_iff.mpr rfl).symm
  | cons c rest ih =>
      rw [List.foldlM_cons, shift?_eq, Nat.ofDigitChars_cons, ← digitValue]
      cases fits : fit? (10 * held.toNat + digitValue c) with
      | some next =>
          rw [fit?_eq_some_iff] at fits
          rw [fits, ← ih next]
          rfl
      | none =>
          have large := fit?_eq_none_iff.mp fits
          have factor : 0 < 10 ^ rest.length := Nat.pow_pos (by decide)
          have grows := Nat.le_mul_of_pos_right (10 * held.toNat + digitValue c) factor
          rw [ofDigitChars_eq, fit?_eq_none_iff.mpr (by omega)]
          rfl

end SecureShell.Port
