/-
Module: SecureShell.Text.Span
Purpose: The written form of a time span of whole nanoseconds. The unit is the largest one of which the
  span has a whole one, from the second down to the nanosecond; what is left over stands behind a point,
  without trailing zeros.
Main exports: Span, Span.ofMilliseconds, Span.ofSeconds, Span.text
-/
import SecureShell.Text.Decimal

namespace SecureShell

/-- A time span in whole nanoseconds. -/
structure Span where
  nanoseconds : Nat
deriving DecidableEq, Repr

namespace Span

/-- The span of no length. -/
def zero : Span := ⟨0⟩

def ofMilliseconds (count : Nat) : Span := ⟨count * 1000000⟩

def ofSeconds (count : Nat) : Span := ⟨count * 1000000000⟩

/-- The decimal places of a part of a unit, as many as `width` without trailing zeros. -/
def places (width part : Nat) : Text :=
  let digits := Text.decimal part
  ((List.replicate (width - digits.length) '0' ++ digits).reverse.dropWhile (· = '0')).reverse

/-- A count of the parts of a unit, of which a whole one has `width` zeros, in that unit. -/
def inUnit (width count : Nat) (unit : Text) : Text :=
  let part := count % Nat.pow 10 width
  Text.decimal (count / Nat.pow 10 width) ++ (if part = 0 then [] else '.' :: places width part) ++ unit

/-- A span in its largest fitting unit. -/
def text (span : Span) : Text :=
  let count := span.nanoseconds
  if 1000000000 ≤ count then inUnit 9 count "s".toList
  else if 1000000 ≤ count then inUnit 6 count "ms".toList
  else if 1000 ≤ count then inUnit 3 count "µs".toList
  else inUnit 0 count "ns".toList

example : text zero = "0ns".toList := by decide
example : text ⟨1500⟩ = "1.5µs".toList := by decide
example : text (ofMilliseconds 999) = "999ms".toList := by decide
example : text (ofMilliseconds 2050) = "2.05s".toList := by decide
example : text ⟨3000000001⟩ = "3.000000001s".toList := by decide

end Span

end SecureShell
