/-
Module: SecureShell.Rehearsal.Shell.RecordValues
Purpose: The values that programs deal with which deal with records, and tables of them. A value is a number or a text;
  a text that comes from outside counts as a number where it looks like one. The elements of a table come in an
  order that depends on how it has been used.
Main exports: RecordValue, RecordTable
-/
import SecureShell.Rehearsal.Shell.Formats
import SecureShell.Rehearsal.Shell.RecordScript

namespace SecureShell.Rehearsal.Shell

/-- A value: nothing yet, a number, a text, or a text from outside. -/
inductive RecordValue where
  | nothing
  | number (value : Float)
  | text (text : Text)
  | input (text : Text)
deriving BEq, Repr

namespace RecordValue

/-- The whole number that a floating one is, if it is one. -/
def whole? (value : Float) : Option Int :=
  let parts := Floating.partsOf value
  match parts.size with
  | .finite mantissa exponent =>
      let size? :=
        if 0 ≤ exponent then some (mantissa <<< exponent.toNat)
        else
          let unit := 1 <<< exponent.natAbs
          if mantissa % unit = 0 then some (mantissa / unit) else none
      size?.map fun size => if parts.isNegative then -(size : Int) else size
  | _ => none

/-- The whole number that is left of a floating one without its places; none if it is not finite. -/
def truncated? (value : Float) : Option Int :=
  let parts := Floating.partsOf value
  match parts.size with
  | .finite mantissa exponent =>
      let size := if 0 ≤ exponent then mantissa <<< exponent.toNat else mantissa >>> exponent.natAbs
      some (if parts.isNegative then -(size : Int) else size)
  | _ => none

/-- The bound of whole numbers with a sign. -/
def signedBound : Int := 1 <<< 63

/-- The greatest whole number without a sign. -/
def greatestWord : Int := (1 <<< 64) - 1

/-- A floating number as a whole number between two others. Where it is beyond all bounds its sign counts. -/
def clamped (least greatest : Int) (value : Float) : Int :=
  match truncated? value with
  | some whole => max least (min greatest whole)
  | none => if value < 0 then least else if 0 < value then greatest else least

/-- A floating number. -/
def ofInt (value : Int) : Float :=
  (Floating.nearest (value < 0) (value.natAbs, 1)).1

/-- The layout of a number that is shown with some digits. -/
def plainLayout : Printing.Layout := ⟨false, false, false, false, false, 0, none⟩

/-- Where the text of a number is laid out by a format with one field, and what stands around the field. Without such
a field the format is the text. -/
def formatted (format : Text) (value : Float) : Text :=
  let front := format.takeWhile (· ≠ '%')
  let (layout, rest) := Printing.readFlags plainLayout (format.drop (front.length + 1))
  let (width, rest) := Arithmetic.readDecimal rest
  let (precision, rest) :=
    match rest with
    | '.' :: rest =>
        let (precision, rest) := Arithmetic.readDecimal rest
        (some precision, rest)
    | rest => (none, rest)
  let layout := { layout with width, precision }
  match rest with
  | letter :: rest =>
      if "eEfFgG".toList.contains letter then front ++ layout.floating letter value ++ rest
      else if letter = 'd' ∨ letter = 'i' then
        front ++ layout.signed (clamped (-signedBound) (signedBound - 1) value) ++ rest
      else format
  | [] => format

/-- The text of a number: its digits if it is whole and not too great, or else by a format. -/
def numberText (format : Text) (value : Float) : Text :=
  if value.isNaN then "-nan".toList
  else
    match whole? value with
    | some whole =>
        if -signedBound ≤ whole ∧ whole ≤ greatestWord + 1 then
          let shown := min whole greatestWord
          if shown < 0 then '-' :: Text.decimal shown.natAbs else Text.decimal shown.natAbs
        else formatted format value
    | none => formatted format value

/-- The text of a value. -/
def toText (format : Text) : RecordValue → Text
  | .nothing => []
  | .number value => numberText format value
  | .text written => written
  | .input written => written

/-- The number at the beginning of a text, behind blanks. -/
def leadingNumber (text : Text) : Float :=
  match Floating.read? (text.dropWhile Arithmetic.isSpace) with
  | some reading => reading.value
  | none => 0

/-- The number that a text from outside looks like: it begins with a sign, a point or a digit, and ends with a point or
a digit; blanks around it do not matter. -/
def seeming? (text : Text) : Option Float :=
  let text := ((text.dropWhile Arithmetic.isSpace).reverse.dropWhile Arithmetic.isSpace).reverse
  let begins := text.head?.any fun c => c.isDigit || c = '+' || c = '-' || c = '.'
  let ends := text.getLast?.any fun c => c.isDigit || c = '.'
  if begins && ends then
    match Floating.read? text with
    | some reading => if reading.rest = [] then some reading.value else none
    | none => none
  else none

/-- The number that a value stands for. -/
def toNumber : RecordValue → Float
  | .nothing => 0
  | .number value => value
  | .text written => leadingNumber written
  | .input written => leadingNumber written

/-- The number of a value that counts as one. -/
def asNumber? : RecordValue → Option Float
  | .nothing => some 0
  | .number value => some value
  | .text _ => none
  | .input written => seeming? written

/-- Whether a value counts as true. -/
def isTrue : RecordValue → Bool
  | .nothing => false
  | .number value => value != 0
  | .text written => written ≠ []
  | .input written =>
      match seeming? written with
      | some value => value != 0
      | none => written ≠ []

/-- The value of a truth. -/
def ofBool (isTrue : Bool) : RecordValue :=
  .number (if isTrue then 1 else 0)

/-- Whether one text stands before another one. -/
def isBefore : Text → Text → Bool
  | _, [] => false
  | [], _ => true
  | c :: first, d :: second => c < d || (c = d && isBefore first second)

/-- Whether two values compare so: as numbers if both count as such, as texts otherwise. -/
def compares (format : Text) (comparison : RecordComparison) (first second : RecordValue) : Bool :=
  match first.asNumber?, second.asNumber? with
  | some first, some second =>
      match comparison with
      | .less => first < second
      | .lessOrEqual => first ≤ second
      | .equal => first == second
      | .notEqual => first != second
      | .greater => second < first
      | .greaterOrEqual => second ≤ first
  | _, _ =>
      let first := first.toText format
      let second := second.toText format
      match comparison with
      | .less => isBefore first second
      | .lessOrEqual => !isBefore second first
      | .equal => first = second
      | .notEqual => first ≠ second
      | .greater => isBefore second first
      | .greaterOrEqual => !isBefore first second

/-- What is left of a number when it is divided, with its sign. -/
def remainder (value divisor : Float) : Float :=
  let parts := Floating.partsOf value
  match parts.size, (Floating.partsOf divisor).size with
  | .finite mantissa exponent, .finite mantissa' exponent' =>
      if mantissa' = 0 then 0 / 0
      else
        let least := min exponent exponent'
        let size := (mantissa <<< (exponent - least).toNat) % (mantissa' <<< (exponent' - least).toNat)
        (Floating.nearest parts.isNegative (Floating.fractionOf size least)).1
  | .finite _ _, .infinite => value
  | _, _ => 0 / 0

/-- What an operation makes of two numbers. -/
def combined (operation : RecordOperation) (first second : Float) : Float :=
  match operation with
  | .add => first + second
  | .subtract => first - second
  | .multiply => first * second
  | .divide => first / second
  | .remainder => remainder first second
  | .power => Float.pow first second

end RecordValue

/-- A table: the values of its elements by the texts of their indices. `texts` and `numbers` are the indices by which
elements have been found, as texts and as whole numbers, the last one first; as long as `hasTexts` does not hold, all
of them have been found as numbers; `isRow` tells that they are the numbers from one on and that finding them changes
nothing. -/
structure RecordTable where
  entries : List (Text × RecordValue)
  texts : List Text
  numbers : List Int
  hasTexts : Bool
  isRow : Bool
deriving BEq, Repr

namespace RecordTable

/-- A table without elements. -/
def empty : RecordTable := ⟨[], [], [], false, false⟩

/-- How many rows of indices a table has. -/
def rowCount : Nat := 64

/-- The row of an index that is a text: a sum of its characters that is well mixed. -/
def rowOf (index : Text) : Nat :=
  let mixed := index.foldl (fun sum c => Nat.xor sum c.toNat * 16777619 % 4294967296) 2166136261
  mixed % rowCount

/-- The row of an index that is a number. -/
def rowOfNumber (index : Int) : Nat :=
  (index % rowCount).toNat

/-- The text of a whole number. -/
def indexText (index : Int) : Text :=
  if index < 0 then '-' :: Text.decimal index.natAbs else Text.decimal index.natAbs

/-- Items with one of them in front. -/
def toFront {α : Type} [DecidableEq α] (item : α) (items : List α) : List α :=
  item :: items.filter (· ≠ item)

/-- The table in which all indices are also known as texts: row by row of the numbers, the later ones before. -/
def withTexts (table : RecordTable) : RecordTable :=
  if table.hasTexts then table
  else
    let numbers := (List.range rowCount).flatMap fun row => table.numbers.filter (rowOfNumber · = row)
    let texts := numbers.foldl (fun texts index =>
      if texts.contains (indexText index) then texts else indexText index :: texts) table.texts
    { table with texts, hasTexts := true, isRow := false }

/-- An index: a text, or a whole number, which is found in another way. -/
inductive Index where
  | text (text : Text)
  | number (number : Int)
deriving DecidableEq, Repr

/-- The text of an index. -/
def Index.toText : Index → Text
  | .text written => written
  | .number value => indexText value

/-- Whether a table has an element. -/
def has (table : RecordTable) (index : Index) : Bool :=
  (table.entries.lookup index.toText).isSome

/-- The table in which an element has been found, or made if it was not there. -/
def finding (table : RecordTable) (index : Index) : RecordTable :=
  let isThere := table.has index
  match index with
  | .number number =>
      if table.isRow && isThere then table
      else
        let isKnown := table.numbers.contains number
        let table := { table with isRow := false, numbers := toFront number table.numbers }
        let text := indexText number
        { table with
          texts := if table.hasTexts && !isKnown then toFront text table.texts else table.texts
          entries := if isThere then table.entries else table.entries ++ [(text, .nothing)] }
  | .text text =>
      let table := table.withTexts
      { table with
        texts := toFront text table.texts
        entries := if isThere then table.entries else table.entries ++ [(text, .nothing)] }

/-- The table after it has been asked whether it has an element. -/
def asked (table : RecordTable) (index : Index) : RecordTable :=
  if table.has index then table.finding index
  else
    match index with
    | .number _ => table
    | .text _ => if table.entries.isEmpty then table else table.withTexts

/-- The value of an element. -/
def value (table : RecordTable) (index : Index) : RecordValue :=
  (table.entries.lookup index.toText).getD .nothing

/-- The table with a value for an element. -/
def setting (table : RecordTable) (index : Index) (value : RecordValue) : RecordTable :=
  let found := table.finding index
  let text := index.toText
  { found with entries := found.entries.map fun entry => if entry.1 = text then (text, value) else entry }

/-- The table without an element. -/
def without (table : RecordTable) (index : Index) : RecordTable :=
  if !table.has index then table.asked index
  else
    let text := index.toText
    let entries := table.entries.filter (·.1 ≠ text)
    if entries.isEmpty then empty
    else
      { table.finding index with
        entries
        texts := table.texts.filter (· ≠ text)
        numbers := table.numbers.filter fun number => indexText number ≠ text
        isRow := false }

/-- The indices in the order in which they come: row by row. -/
def indices (table : RecordTable) : List Text :=
  let known := table.withTexts.texts.map fun text => (rowOf text, text)
  (known.mergeSort fun left right => left.1 ≤ right.1).map (·.2)

/-- The table of values that have the numbers from one on. -/
def ofValues (values : List RecordValue) : RecordTable :=
  let numbered := values.zipIdx 1
  { entries := numbered.map fun (value, number) => (Text.decimal number, value)
    texts := []
    numbers := (numbered.map fun (_, number) => (number : Int)).reverse
    hasTexts := false
    isRow := true }

end RecordTable

end SecureShell.Rehearsal.Shell
