/-
Module: SecureShell.Text.Floating
Purpose: Floating numbers in writing. A number is read from decimal or hexadecimal digits and becomes the
  nearest one of sixty-four bits, the even one of two; it is written with a number of digits that is asked
  for, rounded from its exact value in the same way.
Main exports: Floating.Parts, Floating.nearest, Floating.read, Floating.fixed, Floating.scientific,
  Floating.general, Floating.hexadecimal
-/
import SecureShell.Text.Decimal

namespace SecureShell.Floating

/-- The size of a floating number: a whole number times a power of two, or none of these. -/
inductive Size where
  | finite (mantissa : Nat) (exponent : Int)
  | infinite
  | undefined
deriving DecidableEq, Repr

/-- A floating number taken apart. -/
structure Parts where
  isNegative : Bool
  size : Size
deriving DecidableEq, Repr

/-- The exponent of the smallest numbers. -/
def leastExponent : Int := -1074

/-- The first mantissa with all of its bits. -/
def fullMantissa : Nat := 1 <<< 52

/-- The parts of a floating number. -/
def partsOf (value : Float) : Parts :=
  let bits := value.toBits.toNat
  let exponent := (bits >>> 52) % 2048
  let mantissa := bits % fullMantissa
  let size :=
    if exponent = 2047 then (if mantissa = 0 then .infinite else .undefined)
    else if exponent = 0 then .finite mantissa leastExponent
    else .finite (mantissa + fullMantissa) (leastExponent + exponent - 1)
  ⟨bits >>> 63 = 1, size⟩

/-- A quotient rounded to the nearest whole number, and to the even one of two. -/
def roundedQuotient (numerator denominator : Nat) : Nat :=
  let whole := numerator / denominator
  let twice := 2 * (numerator % denominator)
  if denominator < twice ∨ (twice = denominator ∧ whole % 2 = 1) then whole + 1 else whole

/-- A fraction times a power of a base. -/
def shifted (base : Nat) (fraction : Nat × Nat) (exponent : Int) : Nat × Nat :=
  if exponent < 0 then (fraction.1, fraction.2 * Nat.pow base exponent.natAbs)
  else (fraction.1 * Nat.pow base exponent.natAbs, fraction.2)

/-- The floating number with a sign and with the other bits. -/
def ofBits (isNegative : Bool) (bits : Nat) : Float :=
  Float.ofBits (UInt64.ofNat ((if isNegative then 1 <<< 63 else 0) + bits))

/-- The bits of an infinite number. -/
def infiniteBits : Nat := 2047 <<< 52

/-- The floating number that is nearest to a fraction, and whether it is in range: not beyond the greatest one,
nor rounded among those that have fewer bits. -/
def nearest (isNegative : Bool) (fraction : Nat × Nat) : Float × Bool :=
  if fraction.1 = 0 then (ofBits isNegative 0, true)
  else
    let guess : Int := (fraction.1.log2 : Int) - fraction.2.log2 - 53
    let (numerator, denominator) := shifted 2 fraction (-guess)
    let exponent := max leastExponent (if numerator / denominator < 2 * fullMantissa then guess else guess + 1)
    let (numerator, denominator) := shifted 2 fraction (-exponent)
    let mantissa := roundedQuotient numerator denominator
    let isWhole := numerator % denominator = 0
    if mantissa < fullMantissa then (ofBits isNegative mantissa, isWhole)
    else
      let bits := ((exponent - leastExponent + 1).natAbs <<< 52) + (mantissa - fullMantissa)
      if bits < infiniteBits then (ofBits isNegative bits, true) else (ofBits isNegative infiniteBits, false)

/-- The floating number that is nearest to a whole number times a power of a base; of powers out of all bounds
only the sign counts. -/
def nearestPower (isNegative : Bool) (base mantissa : Nat) (exponent : Int) : Float × Bool :=
  let places : Int := (Nat.toDigits base mantissa).length + exponent
  if mantissa = 0 then (ofBits isNegative 0, true)
  else if 1200 < places then (ofBits isNegative infiniteBits, false)
  else if places < -1200 then (ofBits isNegative 0, false)
  else nearest isNegative (shifted base (mantissa, 1) exponent)

/-- A number that has been read: its value, whether it is in range, and the text behind it. -/
structure Reading where
  value : Float
  inRange : Bool
  rest : Text

/-- An exponent behind its letter, and the text behind it. Without digits there is none. -/
def readExponent (letter : Char) : Text → Int × Text
  | c :: text =>
      if c.toLower ≠ letter then (0, c :: text)
      else
        let digits := if text.head? = some '-' ∨ text.head? = some '+' then text.drop 1 else text
        let written := digits.takeWhile Char.isDigit
        if written = [] then (0, c :: text)
        else
          let size : Int := Nat.ofDigitChars 10 written 0
          (if text.head? = some '-' then -size else size, digits.drop written.length)
  | [] => (0, [])

/-- The digits in front of a point and behind it, and the text behind them; none if there is no digit. -/
def readDigits? (isDigit : Char → Bool) (text : Text) : Option (Text × Text × Text) :=
  let whole := text.takeWhile isDigit
  let behind := text.drop whole.length
  let part := if behind.head? = some '.' then (behind.drop 1).takeWhile isDigit else []
  if whole = [] ∧ part = [] then none
  else if behind.head? = some '.' then some (whole, part, behind.drop (part.length + 1))
  else some (whole, [], behind)

/-- Whether a character is a digit of base sixteen. -/
def isHexDigit (c : Char) : Bool :=
  c.isDigit || ('a' ≤ c.toLower && c.toLower ≤ 'f')

/-- The value of digits of base sixteen. -/
def hexValue (digits : Text) : Nat :=
  digits.foldl (fun value c =>
    value * 16 + (if c.isDigit then c.toNat - '0'.toNat else c.toLower.toNat - 'a'.toNat + 10)) 0

/-- Reads a number without its sign. -/
def readUnsigned? (isNegative : Bool) (text : Text) : Option Reading :=
  let lower := text.map Char.toLower
  let reading (found : Float × Bool) (rest : Text) : Option Reading := some ⟨found.1, found.2, rest⟩
  if "infinity".toList.isPrefixOf lower then reading (ofBits isNegative infiniteBits, true) (text.drop 8)
  else if "inf".toList.isPrefixOf lower then reading (ofBits isNegative infiniteBits, true) (text.drop 3)
  else if "nan".toList.isPrefixOf lower then
    let inside := (text.drop 4).dropWhile fun c => c.isAlphanum || c = '_'
    let rest := if text[3]? = some '(' ∧ inside.head? = some ')' then inside.drop 1 else text.drop 3
    reading (ofBits isNegative (infiniteBits + fullMantissa / 2), true) rest
  else
    let hex := if "0x".toList.isPrefixOf lower then readDigits? isHexDigit (text.drop 2) else none
    match hex, readDigits? Char.isDigit text with
    | some (whole, part, rest), _ =>
        let (exponent, rest) := readExponent 'p' rest
        reading (nearestPower isNegative 2 (hexValue (whole ++ part)) (exponent - 4 * part.length)) rest
    | none, some (whole, part, rest) =>
        let (exponent, rest) := readExponent 'e' rest
        let mantissa := Nat.ofDigitChars 10 (whole ++ part) 0
        reading (nearestPower isNegative 10 mantissa (exponent - part.length)) rest
    | none, none => none

/-- Reads a number, which may have a sign. -/
def read? (text : Text) : Option Reading :=
  match text with
  | '-' :: rest => readUnsigned? true rest
  | '+' :: rest => readUnsigned? false rest
  | text => readUnsigned? false text

/-- The fraction that is a mantissa times a power of two. -/
def fractionOf (mantissa : Nat) (exponent : Int) : Nat × Nat :=
  shifted 2 (mantissa, 1) exponent

/-- Behind so many places every number has zeros only. -/
def placeLimit : Nat := 1100

/-- The places that are worked out, and the zeros behind them. -/
def placesOf (places : Nat) : Nat × Text :=
  (min places placeLimit, List.replicate (places - placeLimit) '0')

/-- Digits with a point in front of the last of them. The point may be wanted even if nothing stands behind
it. -/
def pointed (wantsPoint : Bool) (places : Nat) (digits : Text) : Text :=
  let digits := List.replicate (places + 1 - digits.length) '0' ++ digits
  let whole := digits.take (digits.length - places)
  whole ++ (if wantsPoint || 0 < places then ['.'] else []) ++ digits.drop whole.length

/-- A fraction with a number of places behind the point. -/
def fixed (wantsPoint : Bool) (places : Nat) (fraction : Nat × Nat) : Text :=
  let (places, zeros) := placesOf places
  let (numerator, denominator) := shifted 10 fraction places
  pointed (wantsPoint || zeros ≠ []) places (Text.decimal (roundedQuotient numerator denominator)) ++ zeros

/-- The power of ten of the first digit of a fraction. -/
def decimalExponent (fraction : Nat × Nat) : Int :=
  if fraction.1 = 0 then 0
  else
    let guess : Int := ((Text.decimal fraction.1).length : Int) - (Text.decimal fraction.2).length
    let (numerator, denominator) := shifted 10 fraction (-guess)
    if denominator ≤ numerator then guess else guess - 1

/-- The digits of a fraction, one more than a number of places, and the power of ten of the first one. -/
def leadingDigits (places : Nat) (fraction : Nat × Nat) : Text × Int :=
  let exponent := decimalExponent fraction
  let (numerator, denominator) := shifted 10 fraction (places - exponent)
  let digits := Text.decimal (roundedQuotient numerator denominator)
  if fraction.1 = 0 then (List.replicate (places + 1) '0', 0)
  else if places + 1 < digits.length then (digits.take (places + 1), exponent + 1)
  else (digits, exponent)

/-- A power in writing: its letter, its sign and at least so many digits. -/
def powerText (letter : Char) (least : Nat) (exponent : Int) : Text :=
  let digits := Text.decimal exponent.natAbs
  letter :: (if exponent < 0 then '-' else '+') :: List.replicate (least - digits.length) '0' ++ digits

/-- A fraction with one digit in front of the point and a power of ten. -/
def scientific (wantsPoint : Bool) (places : Nat) (fraction : Nat × Nat) : Text :=
  let (places, zeros) := placesOf places
  let (digits, exponent) := leadingDigits places fraction
  pointed (wantsPoint || zeros ≠ []) places digits ++ zeros ++ powerText 'e' 2 exponent

/-- A text without the zeros at its end, and without a point in front of them. -/
def withoutZeros (text : Text) : Text :=
  if '.' ∈ text then
    let rest := (text.reverse.dropWhile (· = '0'))
    (if rest.head? = some '.' then rest.drop 1 else rest).reverse
  else text

/-- A fraction with a number of digits, the zeros at the end left away unless they are wanted: with a power of
ten if that is far from zero. -/
def general (wantsZeros : Bool) (digits : Nat) (fraction : Nat × Nat) : Text :=
  let digits := max 1 digits
  let (first, exponent) := leadingDigits (min (digits - 1) placeLimit) fraction
  let shorten (text : Text) : Text := if wantsZeros then text else withoutZeros text
  if -4 ≤ exponent ∧ exponent < digits then
    shorten (fixed wantsZeros (digits - 1 - exponent).toNat fraction)
  else
    let (_, zeros) := placesOf (digits - 1)
    shorten (pointed wantsZeros (first.length - 1) first ++ zeros) ++ powerText 'e' 2 exponent

/-- The digits of base sixteen behind the point of a mantissa. -/
def hexPlaces (places : Nat) (value : Nat) : Text :=
  let digits := Nat.toDigits 16 value
  List.replicate (places - digits.length) '0' ++ digits

/-- A number in digits of base sixteen with a power of two. Without a number of places it is exact. -/
def hexadecimal (wantsPoint : Bool) (places? : Option Nat) (mantissa : Nat) (exponent : Int) : Text :=
  let power := if mantissa = 0 then 0 else exponent + 52
  let (mantissa, places, zeros) := match places? with
    | some places =>
        if places < 13 then (roundedQuotient mantissa (1 <<< (4 * (13 - places))), places, [])
        else (mantissa, 13, List.replicate (places - 13) '0')
    | none => (mantissa, 13, [])
  let whole := mantissa >>> (4 * places)
  let digits := hexPlaces places (mantissa % (1 <<< (4 * places)))
  let behind := if places = 0 then [] else digits ++ zeros
  let shown := if places?.isNone then (behind.reverse.dropWhile (· = '0')).reverse else behind
  "0x".toList ++ Nat.toDigits 16 whole ++ (if wantsPoint || shown ≠ [] then ['.'] else []) ++ shown
    ++ powerText 'p' 1 power

/-- How the size of a number is written by the small letter of its kind, in as many places as are asked for or
in as many as is usual. -/
def sizeText (letter : Char) (isMarked : Bool) (places? : Option Nat) : Size → Text
  | .infinite => "inf".toList
  | .undefined => "nan".toList
  | .finite mantissa exponent =>
      let places := places?.getD 6
      let fraction := fractionOf mantissa exponent
      if letter = 'f' then fixed isMarked places fraction
      else if letter = 'e' then scientific isMarked places fraction
      else if letter = 'g' then general isMarked places fraction
      else hexadecimal isMarked places? mantissa exponent

end SecureShell.Floating
