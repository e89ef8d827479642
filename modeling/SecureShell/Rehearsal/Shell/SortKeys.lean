/-
Module: SecureShell.Rehearsal.Shell.SortKeys
Purpose: By what lines are compared when they are put in an order. A key is a part of a line, which is given by
  the numbers of fields and characters where it begins and ends, and is compared as a text, as a number, as a
  month or as a version.
Main exports: KeyOptions, SortKey, SortKey.read, SortKey.compare
-/
import SecureShell.Rehearsal.Shell.Arguments
import SecureShell.Rehearsal.Shell.Arithmetic
import SecureShell.Text.Floating

namespace SecureShell.Rehearsal.Shell

/-- How the texts of a key are compared, by the letters of the options for it; and whether blanks in front are
passed over at its beginning and at its end. -/
structure KeyOptions where
  letters : Text
  blanksAtStart : Bool
  blanksAtEnd : Bool
deriving DecidableEq, Repr

/-- A place in a line: how many fields and how many characters of the next one are passed. -/
structure KeyPlace where
  fields : Nat
  characters : Nat
deriving DecidableEq, Repr

/-- A key: where it begins, where it ends unless it goes on to the end of the line, and how it is compared. At
the end no characters stand for the whole field. -/
structure SortKey where
  first : KeyPlace
  last : Option KeyPlace
  options : KeyOptions
deriving DecidableEq, Repr

namespace KeyOptions

/-- Whether an option is given. -/
def has (options : KeyOptions) (letter : Char) : Bool :=
  options.letters.contains letter

/-- Whether nothing is asked for but the opposite order. -/
def isUsual (options : KeyOptions) : Bool :=
  !(options.blanksAtStart || options.blanksAtEnd) && options.letters.all (· = 'r')

/-- The letters of options in the order in which they are named, if they cannot go together. -/
def conflict? (options : KeyOptions) : Option Text :=
  let kinds := ['n', 'g', 'h', 'M'].filter options.has
  let isOther := "VRdi".toList.any options.has
  if kinds.length + (if isOther then 1 else 0) ≤ 1 then none
  else
    let named := if options.has 'd' then "dfghMnRV".toList else "fghiMnRV".toList
    some (named.filter options.has)

end KeyOptions

namespace SortKey

/-- Whether a character is a blank between fields. -/
def isBlank (c : Char) : Bool :=
  c = ' ' || c = '\t'

/-- How many characters the fields in front of a text take: up to a separator, or blanks and what follows them.
`toEnd` tells whether the separator behind the last of them is left. -/
def fieldsLength (separator : Option Char) (toEnd : Bool) : (count : Nat) → Text → Nat
  | 0, _ => 0
  | count + 1, text =>
      match separator with
      | some mark =>
          let size := (text.takeWhile (· ≠ mark)).length
          if size = text.length ∨ (count = 0 ∧ toEnd = true) then size
          else size + 1 + fieldsLength separator toEnd count (text.drop (size + 1))
      | none =>
          let blanks := (text.takeWhile isBlank).length
          let size := blanks + ((text.drop blanks).takeWhile fun c => !isBlank c).length
          size + if size = text.length then 0 else fieldsLength separator toEnd count (text.drop size)

/-- How many blanks stand behind a number of characters. -/
def blanksBehind (wanted : Bool) (text : Text) (place : Nat) : Nat :=
  if wanted then ((text.drop place).takeWhile isBlank).length else 0

/-- The part of a line that is compared. -/
def textIn (key : SortKey) (separator : Option Char) (line : Text) : Text :=
  let start := fieldsLength separator false key.first.fields line
  let start := start + blanksBehind key.options.blanksAtStart line start + key.first.characters
  let finish := match key.last with
    | none => line.length
    | some ⟨fields, 0⟩ => fieldsLength separator true (fields + 1) line
    | some ⟨fields, characters⟩ =>
        let finish := fieldsLength separator false fields line
        finish + blanksBehind key.options.blanksAtEnd line finish + characters
  (line.take finish).drop start

/-- How two texts compare by their characters. -/
def compareTexts (left right : Text) : Ordering :=
  if left < right then .lt else if right < left then .gt else .eq

/-- A number in writing: whether it is negative, its whole part, and the digits behind the point without zeros at
the end. -/
structure Written where
  isNegative : Bool
  whole : Nat
  fraction : Text

/-- The number at the beginning of a text, behind blanks. -/
def written (text : Text) : Written :=
  let text := text.dropWhile isBlank
  let isNegative := text.head? = some '-'
  let digits := if isNegative then text.drop 1 else text
  let whole := digits.takeWhile Char.isDigit
  let behind := digits.drop whole.length
  let fraction := if behind.head? = some '.' then (behind.drop 1).takeWhile Char.isDigit else []
  ⟨isNegative, Nat.ofDigitChars 10 whole 0, (fraction.reverse.dropWhile (· = '0')).reverse⟩

/-- Whether a number is zero. -/
def Written.isZero (number : Written) : Bool :=
  number.whole = 0 && number.fraction = []

/-- How two numbers compare. -/
def compareWritten (left right : Written) : Ordering :=
  let sizes (left right : Written) : Ordering :=
    (compare left.whole right.whole).then (compareTexts left.fraction right.fraction)
  let sign (number : Written) : Int := if number.isZero then 0 else if number.isNegative then -1 else 1
  (compare (sign left) (sign right)).then
    (if left.isNegative then sizes right left else sizes left right)

/-- The letters of units, the smallest first. -/
def unitLetters : Text := "KMGTPEZYRQ".toList

/-- The place of the unit behind a number among all units; it is below zero for negative numbers. -/
def unitOrder (text : Text) : Int :=
  let text := text.dropWhile isBlank
  let number := written text
  let digits := (if number.isNegative then text.drop 1 else text).dropWhile Char.isDigit
  let behind := if digits.head? = some '.' then (digits.drop 1).dropWhile Char.isDigit else digits
  let place := match behind.head? with
    | none => 0
    | some c => if c = 'k' then 1 else (unitLetters.findIdx? (· = c)).elim 0 (· + 1)
  if number.isZero then 0 else if number.isNegative then -(place : Int) else place

/-- The names of the months, of which three letters count. -/
def months : List Text :=
  ["JAN", "FEB", "MAR", "APR", "MAY", "JUN", "JUL", "AUG", "SEP", "OCT", "NOV", "DEC"].map String.toList

/-- The number of the month at the beginning of a text; zero if there is none. -/
def monthOf (text : Text) : Nat :=
  let name := ((text.dropWhile isBlank).take 3).map Char.toUpper
  (months.findIdx? (· = name)).elim 0 (· + 1)

/-- How two texts compare by the floating numbers at their beginning. Texts without a number come first, then
what is no number although it is written as one. -/
def compareFloating (left right : Text) : Ordering :=
  let value (text : Text) : Nat × Float :=
    match Floating.read? (text.dropWhile Arithmetic.isSpace) with
    | none => (0, 0)
    | some reading => if reading.value.isNaN then (1, 0) else (2, reading.value)
  let (leftKind, leftValue) := value left
  let (rightKind, rightValue) := value right
  (compare leftKind rightKind).then
    (if leftValue < rightValue then .lt else if rightValue < leftValue then .gt else .eq)

/-- The place of a character among those of a version: a tilde comes before the end, and letters before other
signs. -/
def versionOrder : Text → Int
  | [] => -1
  | c :: _ =>
      if c.isDigit then 0
      else if c.isAlpha then c.toNat
      else if c = '~' then -2
      else c.toNat + 256

/-- How two texts compare as versions: signs by their order, and numbers by their values. `fuel` bounds the
steps. -/
def compareParts : (fuel : Nat) → Text → Text → Ordering
  | 0, _, _ => .eq
  | fuel + 1, left, right =>
      let isSign (text : Text) : Bool := text.head?.any fun c => !c.isDigit
      if left = [] ∧ right = [] then .eq
      else if isSign left || isSign right then
        (compare (versionOrder left) (versionOrder right)).then (compareParts fuel (left.drop 1) (right.drop 1))
      else
        let leftDigits := left.takeWhile Char.isDigit
        let rightDigits := right.takeWhile Char.isDigit
        (compare (Nat.ofDigitChars 10 leftDigits 0) (Nat.ofDigitChars 10 rightDigits 0)).then
          (compareParts fuel (left.drop leftDigits.length) (right.drop rightDigits.length))

/-- How long a name is without its endings, each of which is a point, a letter or tilde, and further letters,
digits and tildes. The first character belongs to no ending. `fuel` bounds the steps. -/
def stemLength : (fuel : Nat) → (place stem : Nat) → Text → Nat
  | 0, _, stem, _ => stem
  | fuel + 1, place, stem, text =>
      match text with
      | [] => stem
      | '.' :: c :: rest =>
          if 0 < place ∧ (c.isAlpha = true ∨ c = '~') then
            let ending := (rest.takeWhile fun c => c.isAlphanum || c = '~').length
            stemLength fuel (place + ending + 2) stem (rest.drop ending)
          else stemLength fuel (place + 1) (place + 1) (c :: rest)
      | _ :: rest => stemLength fuel (place + 1) (place + 1) rest

/-- How two names compare as versions: first without their endings. Hidden names come first. -/
def compareVersions (left right : Text) : Ordering :=
  let rank (text : Text) : Nat :=
    if text = [] then 0
    else if text = ['.'] then 1
    else if text = ['.', '.'] then 2
    else if text.head? = some '.' then 3
    else 4
  let fuel := 2 * (left.length + right.length) + 2
  let stem (text : Text) : Text := text.take (stemLength fuel 0 0 text)
  (compare (rank left) (rank right)).then
    ((compareParts fuel (stem left) (stem right)).then (compareParts fuel left right))

/-- The text of a key without the characters that do not count, and with those that count as others. -/
def counted (options : KeyOptions) (text : Text) : Text :=
  let kept :=
    if options.has 'd' then text.filter fun c => isBlank c || c.isAlphanum
    else if options.has 'i' then text.filter fun c => 0x20 ≤ c.toNat && c.toNat < 0x7f
    else text
  if options.has 'f' then kept.map Char.toUpper else kept

/-- How two texts compare by a key. -/
def compareBy (options : KeyOptions) (left right : Text) : Ordering :=
  let found :=
    if options.has 'n' then compareWritten (written left) (written right)
    else if options.has 'g' then compareFloating left right
    else if options.has 'h' then
      (compare (unitOrder left) (unitOrder right)).then (compareWritten (written left) (written right))
    else if options.has 'M' then compare (monthOf left) (monthOf right)
    else if options.has 'V' then compareVersions (counted options left) (counted options right)
    else compareTexts (counted options left) (counted options right)
  if options.has 'r' then found.swap else found

/-- How two lines compare by a key. -/
def compare (key : SortKey) (separator : Option Char) (left right : Text) : Ordering :=
  compareBy key.options (key.textIn separator left) (key.textIn separator right)

/-- What is wrong with a key. -/
def fault (what : String) (written : Text) : Misuse :=
  .plain (what ++ ": invalid field specification ") written

/-- A number in a key, and the text behind it. -/
def readNumber (what : String) (text : Text) : Except Misuse (Nat × Text) :=
  let digits := text.takeWhile Char.isDigit
  if digits = [] then .error (.plain (what ++ ": invalid count at start of ") text)
  else .ok (Nat.ofDigitChars 10 digits 0, text.drop digits.length)

/-- A number in a key that cannot be zero. -/
def readPositive (what zero : String) (written text : Text) : Except Misuse (Nat × Text) := do
  let (number, rest) ← readNumber what text
  if number = 0 then throw (fault zero written) else pure (number, rest)

/-- The letters of options at the beginning of a text, and the text behind them. -/
def readLetters (text : Text) : Text × Text :=
  let letters := text.takeWhile fun c => "bdfghiMnRrV".toList.contains c
  (letters, text.drop letters.length)

/-- Reads a key. -/
def read (text : Text) : Except Misuse SortKey := do
  let zeroField := "field number is zero"
  let (field, rest) ← readPositive "invalid number at field start" zeroField text text
  let (character, rest) ← match rest with
    | '.' :: rest => readPositive "invalid number after '.'" "character offset is zero" text rest
    | rest => pure (1, rest)
  let (firstLetters, rest) := readLetters rest
  let (last, lastLetters, rest) ← match rest with
    | ',' :: rest => do
        let (field, rest) ← readPositive "invalid number after ','" zeroField text rest
        let (characters, rest) ← match rest with
          | '.' :: rest => readNumber "invalid number after '.'" rest
          | rest => pure (0, rest)
        let (letters, rest) := readLetters rest
        pure (some (KeyPlace.mk (field - 1) characters), letters, rest)
    | rest => pure (none, [], rest)
  if rest ≠ [] then throw (fault "stray character in field spec" text)
  let letters := (firstLetters ++ lastLetters).filter (· ≠ 'b')
  pure ⟨⟨field - 1, character - 1⟩, last, ⟨letters, firstLetters.contains 'b', lastLetters.contains 'b'⟩⟩

end SortKey

end SecureShell.Rehearsal.Shell
