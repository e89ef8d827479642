/-
Module: SecureShell.Rehearsal.Shell.RecordParts
Purpose: How a text is cut into records and a record into fields, how parts of a text are replaced, and how values are
  printed by a format.
Main exports: RecordSeparator, RecordEnd, RecordFormatFault, RecordParts.fields, RecordParts.cutRecord,
  RecordParts.replaced, RecordParts.formatted
-/
import SecureShell.Rehearsal.Shell.RecordNames
import SecureShell.Rehearsal.Shell.RecordValues

namespace SecureShell.Rehearsal.Shell

/-- What stands between fields: blanks, nothing at all, so that each character is a field, a character, or what an
expression stands for. -/
inductive RecordSeparator where
  | blanks
  | nothing
  | char (c : Char)
  | expression (expression : Expression)
deriving DecidableEq, Repr

/-- What ends a record: a character, lines without text, or what an expression stands for. -/
inductive RecordEnd where
  | char (c : Char)
  | emptyLines
  | expression (expression : Expression)
deriving DecidableEq, Repr

/-- The record at the beginning of a text: itself and what is behind it; nothing because there is none; or it is not
known yet where it ends. -/
inductive RecordCut where
  | found (record rest : Text)
  | none
  | open
deriving DecidableEq, Repr

/-- What is wrong with a format: it has more fields than there are values, or a field of a number is none. -/
inductive RecordFormatFault where
  | notEnough
  | improper (number : Nat)
deriving DecidableEq, Repr

/-- The separator that a text names. -/
def RecordSeparator.ofText (written : Text) : Except Text RecordSeparator :=
  match written with
  | [] => .ok .nothing
  | [' '] => .ok .blanks
  | [c] => .ok (.char c)
  | written => (RecordReading.readExpression written).map .expression

/-- The end of records that a text names. -/
def RecordEnd.ofText (written : Text) : Except Text RecordEnd :=
  match written with
  | [] => .ok .emptyLines
  | [c] => .ok (.char c)
  | written => (RecordReading.readExpression written).map .expression

namespace RecordParts

/-- Whether a character stands between fields that are separated by blanks. -/
def isBlank (c : Char) : Bool :=
  c = ' ' || c = '\t' || c = '\n'

/-- The parts of a text between blanks. `fuel` bounds their number. -/
def words : (fuel : Nat) → Text → List Text
  | 0, _ => []
  | fuel + 1, text =>
      let begun := text.dropWhile isBlank
      if begun = [] then []
      else
        let word := begun.takeWhile fun c => !isBlank c
        word :: words fuel (begun.drop word.length)

/-- The first part of a text with characters that an expression stands for, behind what has been passed, the last
character of which comes first. `fuel` bounds the steps. -/
def findPart (expression : Expression) : (fuel : Nat) → (passed : Text) → (before : Option Char) → Text →
    Option (Text × Text × Text)
  | 0, _, _, _ => none
  | fuel + 1, passed, before, text =>
      match expression.searchBehind false before text with
      | none => none
      | some found =>
          if found.part ≠ [] then some (passed.reverse ++ found.before, found.part, found.behind)
          else
            match found.behind with
            | [] => none
            | c :: rest => findPart expression fuel (c :: found.before.reverse ++ passed) (some c) rest

/-- The texts between the parts of a text that an expression stands for. `fuel` bounds their number. -/
def between (expression : Expression) : (fuel : Nat) → (before : Option Char) → Text → List Text
  | 0, _, text => [text]
  | fuel + 1, before, text =>
      match findPart expression (text.length + 1) [] before text with
      | none => [text]
      | some (front, part, behind) => front :: between expression fuel part.getLast? behind

/-- The fields of a text. -/
def fields (separator : RecordSeparator) (text : Text) : List Text :=
  if text = [] then []
  else
    match separator with
    | .blanks => words (text.length + 1) text
    | .nothing => text.map fun c => [c]
    | .char c => Text.segments c text
    | .expression expression => between expression (text.length + 1) none text

/-- A text up to the first line without text, and what is behind all such lines. -/
def cutParagraph (text : Text) : Option (Text × Text) :=
  match text with
  | [] => none
  | '\n' :: '\n' :: rest => some ([], rest.dropWhile (· = '\n'))
  | c :: rest => (cutParagraph rest).map fun cut => (c :: cut.1, cut.2)

/-- Cuts the record off at the beginning of a text behind which more may come. -/
def cutRecord (ending : RecordEnd) (waits : Bool) (text : Text) : RecordCut :=
  let atEnd (rest : Text) : RecordCut :=
    if waits then .open else if rest = [] then .none else .found rest []
  match ending with
  | .char c =>
      let record := text.takeWhile (· ≠ c)
      let rest := text.drop record.length
      if rest = [] then atEnd record else .found record (rest.drop 1)
  | .emptyLines =>
      let begun := text.dropWhile (· = '\n')
      match cutParagraph begun with
      | some (record, rest) => .found record rest
      | none => atEnd (if begun.getLast? = some '\n' then begun.dropLast else begun)
  | .expression expression =>
      match findPart expression (text.length + 1) [] none text with
      | some (record, _, rest) => if waits && rest = [] then .open else .found record rest
      | none => atEnd text

/-- The text that replaces a part. A sign stands for the part unless an odd number of backslashes stands before it. -/
def replacement (part : Text) : Text → Text
  | '\\' :: '\\' :: rest =>
      let backslashes := '\\' :: '\\' :: rest.takeWhile (· = '\\')
      let behind := rest.dropWhile (· = '\\')
      if behind.head? = some '&' then '\\' :: replacement part rest else backslashes.take 2 ++ replacement part rest
  | '\\' :: '&' :: rest => '&' :: replacement part rest
  | '&' :: rest => part ++ replacement part rest
  | c :: rest => c :: replacement part rest
  | [] => []

/-- A text in which parts are replaced that an expression stands for, the first one or all of them, and how many.
`before` is the character before the text, and `isBehind` tells whether a part ends there, so that one without
characters does not count. `fuel` bounds the steps. -/
def replaced (expression : Expression) (all : Bool) (written : Text) :
    (fuel : Nat) → (before : Option Char) → (isBehind : Bool) → Text → Text × Nat
  | 0, _, _, text => (text, 0)
  | fuel + 1, before, isBehind, text =>
      match expression.searchBehind false before text with
      | none => (text, 0)
      | some found =>
          let isVoid := found.part = [] && found.before = [] && isBehind
          let front := found.before ++ if isVoid then [] else replacement found.part written
          let count := if isVoid then 0 else 1
          if !all then (front ++ found.behind, count)
          else
            match found.part, found.behind with
            | [], [] => (front, count)
            | [], c :: behind =>
                let (rest, others) := replaced expression all written fuel (some c) false behind
                (front ++ c :: rest, count + others)
            | part, behind =>
                let (rest, others) := replaced expression all written fuel part.getLast? true behind
                (front ++ rest, count + others)

/-- A number as a whole one with a sign. What is too great for that is taken as one without a sign. -/
def signedWord (value : Float) : Int :=
  match RecordValue.truncated? value with
  | some whole =>
      if whole < -RecordValue.signedBound then -(RecordValue.signedBound - 1) else min whole RecordValue.greatestWord
  | none =>
      if value < 0 then -(RecordValue.signedBound - 1)
      else if 0 < value then RecordValue.greatestWord else -RecordValue.signedBound

/-- A number as a machine word: one below zero is counted from the end. -/
def machineWord (value : Float) : Nat :=
  let size := RecordValue.clamped (-RecordValue.greatestWord) RecordValue.greatestWord value
  (size % (RecordValue.greatestWord + 1)).toNat

/-- The character that a value stands for: the one with the code that is a number, or the first one of a text. -/
def charOf (value : RecordValue) : Text :=
  match value.asNumber? with
  | some number => [Char.ofNat (((RecordValue.truncated? number).getD 0) % 256).toNat]
  | none => [(value.toText []).headD '\x00']

/-- A width or a precision, from a value behind an asterisk or from digits, the values that are left, and the text
behind it. -/
def readCount (values : List RecordValue) : Text → Option (Int × List RecordValue × Text)
  | '*' :: rest =>
      match values with
      | [] => none
      | value :: values => some (RecordValue.clamped (-2147483647) 2147483647 value.toNumber, values, rest)
  | text =>
      let (count, rest) := Arithmetic.readDecimal text
      some (count, values, rest)

/-- The field at the beginning of a format up to its letter: its layout, the values that are left, and the format from
the letter on. -/
def readField (values : List RecordValue) (format : Text) : Option (Printing.Layout × List RecordValue × Text) := do
  let (layout, format) := Printing.readFlags RecordValue.plainLayout format
  let (width, values, format) ← readCount values format
  let layout := { layout with
    width := min Printing.widthLimit width.natAbs, toLeft := layout.toLeft || width < 0 }
  let (layout, values, format) ← match format with
    | '.' :: format => do
        let (precision, values, format) ← readCount values format
        let precision := if precision < 0 then none else some (min Printing.widthLimit precision.toNat)
        pure ({ layout with precision }, values, format)
    | format => pure (layout, values, format)
  pure (layout, values, format.dropWhile fun c => c = 'l' || c = 'h')

/-- A value in a field, by the letter of that. -/
def inField? (conversion : Text) (layout : Printing.Layout) (letter : Char) (value : RecordValue) : Option Text :=
  if letter = 's' then some (layout.text (value.toText conversion))
  else if letter = 'c' then some (layout.text (charOf value))
  else if letter = 'd' ∨ letter = 'i' then some (layout.signed (signedWord value.toNumber))
  else if "uoxX".toList.contains letter then some (layout.unsigned letter (machineWord value.toNumber))
  else if "eEfFgG".toList.contains letter then some (layout.floating letter value.toNumber)
  else none

/-- Values printed by a format up to where it is wrong. `number` is that of the next field, `conversion` the format for
numbers as texts. `fuel` bounds the steps. -/
def formatted (conversion : Text) : (fuel : Nat) → (number : Nat) → List RecordValue → Text →
    Text × Option RecordFormatFault
  | 0, _, _, _ => ([], none)
  | _, _, _, [] => ([], none)
  | fuel + 1, number, values, '%' :: '%' :: format =>
      let (text, fault) := formatted conversion fuel number values format
      ('%' :: text, fault)
  | fuel + 1, number, values, '%' :: format =>
      match readField values format with
      | some (layout, value :: values, letter :: format) =>
          match inField? conversion layout letter value with
          | some shown =>
              let (text, fault) := formatted conversion fuel (number + 1) values format
              (shown ++ text, fault)
          | none => ([], some (.improper number))
      | some (_, _ :: _, []) => ([], some (.improper number))
      | _ => ([], some .notEnough)
  | fuel + 1, number, values, c :: format =>
      let (text, fault) := formatted conversion fuel number values format
      (c :: text, fault)

end RecordParts

end SecureShell.Rehearsal.Shell
