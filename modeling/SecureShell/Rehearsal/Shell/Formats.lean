/-
Module: SecureShell.Rehearsal.Shell.Formats
Purpose: Printing by a format. A format has fields for texts and for numbers, and is used again as long as
  arguments are left. The command that is part of the shell and the program of the same name differ in some
  fields, in their backslashes and in what they say about arguments that are no numbers.
Main exports: Printer, Print, formatPrint
-/
import SecureShell.Rehearsal.Shell.Arithmetic
import SecureShell.Rehearsal.Shell.Filters
import SecureShell.Rehearsal.Shell.Printing
import SecureShell.Text.Floating

namespace SecureShell.Rehearsal.Shell.Printing

open Filters (Saying)

/-- Who prints: the command that is part of the shell, or the program. -/
inductive Printer where
  | command
  | program
deriving DecidableEq, Repr

/-- What is printed: texts and messages about the arguments in their order, whether printing goes on behind them,
and the status. -/
structure Print where
  said : List Saying
  goesOn : Bool
  status : Nat
deriving DecidableEq, Repr

/-- What may be wrong with an argument of which a number is wanted: it is none, there is more behind the number,
it is out of range, or something follows a character that stands for its code. -/
inductive NumberFault where
  | none
  | more
  | range
  | behindCharacter (rest : Text)
deriving DecidableEq, Repr

namespace Printer

/-- How an argument is named that is wrong. -/
def naming (printer : Printer) (argument : Text) : Text :=
  match printer with
  | .command => argument
  | .program => singleQuoted argument

/-- What is said about an argument, and the status. -/
def complaint (printer : Printer) (argument : Text) (fault : NumberFault) : Text × Nat :=
  let about (words : String) : Text := printer.naming argument ++ ": ".toList ++ words.toList
  match fault, printer with
  | .none, .command => (about "expected numeric value", 1)
  | .none, .program => (about "expected a numeric value", 1)
  | .more, .command => (about "not completely converted", 1)
  | .more, .program => (about "value not completely converted", 1)
  | .range, _ => (about "Numerical result out of range", 1)
  | .behindCharacter rest, _ =>
      ("warning: ".toList ++ rest
        ++ ": character(s) following character constant have been ignored".toList, 0)

/-- The status behind a malformed format. -/
def malformedStatus : Printer → Nat
  | .command => 2
  | .program => 1

/-- What is said about a field that is none. -/
def badDirective (printer : Printer) (written : Text) (letter : Option Char) : Text :=
  match printer, letter with
  | .command, none => "missing format character".toList
  | .command, some letter => written ++ letter :: ": invalid directive".toList
  | .program, letter => written ++ letter.toList ++ ": invalid conversion specification".toList

end Printer

namespace Print

/-- A text behind which printing goes on. -/
def ofText (text : Text) : Print := ⟨[.output text], true, 0⟩

/-- A message behind which printing goes on, with a status. -/
def ofMessage (message : Text) (status : Nat) : Print := ⟨[.message message], true, status⟩

/-- A message behind which nothing is printed. -/
def malformed (printer : Printer) (message : Text) : Print :=
  ⟨[.message message], false, printer.malformedStatus⟩

/-- Two things printed one after the other. -/
def followedBy (first second : Print) : Print :=
  ⟨first.said ++ second.said, second.goesOn, max first.status second.status⟩

/-- The end of all printing. -/
def stop : Print := ⟨[], false, 0⟩

/-- All texts. -/
def text (print : Print) : Text :=
  print.said.flatMap fun saying => match saying with
    | .output text => text
    | .message _ => []

/-- All messages. -/
def messages (print : Print) : List Text :=
  print.said.filterMap fun saying => match saying with
    | .output _ => none
    | .message message => some message

end Print

/-- How a field of a format is laid out. -/
structure Layout where
  toLeft : Bool
  zeros : Bool
  plus : Bool
  blank : Bool
  marked : Bool
  width : Nat
  precision : Option Nat
deriving DecidableEq, Repr

namespace Layout

/-- A text widened to the width of its field. -/
def pad (layout : Layout) (text : Text) : Text :=
  let missing := layout.width - text.length
  if layout.toLeft then text ++ List.replicate missing ' ' else List.replicate missing ' ' ++ text

/-- A text in its field, cut to the precision. -/
def text (layout : Layout) (text : Text) : Text :=
  layout.pad (match layout.precision with
    | some most => text.take most
    | none => text)

/-- Digits behind a sign, widened by zeros if this is asked for. -/
def filled (layout : Layout) (zeros : Bool) (sign digits : Text) : Text :=
  if zeros && !layout.toLeft then
    sign ++ List.replicate (layout.width - (sign.length + digits.length)) '0' ++ digits
  else layout.pad (sign ++ digits)

/-- A whole number in its field: as many digits as the precision asks for, none for zero if it asks for none. -/
def digits (layout : Layout) (sign digits : Text) : Text :=
  let digits := if layout.precision = some 0 ∧ digits = ['0'] then [] else digits
  let digits := List.replicate (layout.precision.getD 1 - digits.length) '0' ++ digits
  layout.filled (layout.zeros && layout.precision.isNone) sign digits

/-- The sign of a number in its field. -/
def sign (layout : Layout) (isNegative : Bool) : Text :=
  if isNegative then ['-'] else if layout.plus then ['+'] else if layout.blank then [' '] else []

/-- A whole number with its sign in its field. -/
def signed (layout : Layout) (value : Int) : Text :=
  layout.digits (layout.sign (value < 0)) (Text.decimal value.natAbs)

/-- A number without a sign in its field, by the letter of that. A mark tells the base. -/
def unsigned (layout : Layout) (letter : Char) (value : Nat) : Text :=
  if letter = 'u' then layout.digits [] (Text.decimal value)
  else if letter = 'o' then
    let digits := Nat.toDigits 8 value
    let isMarked := layout.marked && (value ≠ 0 || layout.precision = some 0)
      && layout.precision.all fun least => least ≤ digits.length
    if isMarked then { layout with precision := layout.precision.map fun _ => 1 }.digits []
      (if value = 0 then digits else '0' :: digits)
    else layout.digits [] digits
  else
    let digits := Nat.toDigits 16 value
    layout.digits (if layout.marked && value ≠ 0 then ['0', letter] else [])
      (if letter = 'X' then digits.map Char.toUpper else digits)

/-- A floating number in its field, by the letter of that. -/
def floating (layout : Layout) (letter : Char) (value : Float) : Text :=
  let parts := Floating.partsOf value
  let written := Floating.sizeText letter.toLower layout.marked layout.precision parts.size
  let mark := "0x".toList
  let isHex := mark.isPrefixOf written
  let sign := layout.sign parts.isNegative ++ if isHex then mark else []
  let digits := if isHex then written.drop 2 else written
  let capital (text : Text) : Text := if letter.isUpper then text.map Char.toUpper else text
  let isFinite := match parts.size with
    | .finite _ _ => true
    | _ => false
  layout.filled (layout.zeros && isFinite) (capital sign) (capital digits)

end Layout

/-- The flags in front of a field. -/
def readFlags (layout : Layout) : Text → Layout × Text
  | '-' :: rest => readFlags { layout with toLeft := true } rest
  | '0' :: rest => readFlags { layout with zeros := true } rest
  | '+' :: rest => readFlags { layout with plus := true } rest
  | ' ' :: rest => readFlags { layout with blank := true } rest
  | '#' :: rest => readFlags { layout with marked := true } rest
  | rest => (layout, rest)

/-- A value that an argument stands for, and what is wrong with the argument. -/
structure Argued (α : Type) where
  value : α
  fault : Option NumberFault

/-- The code of a character for which an argument asks by a quote in front of it. -/
def characterCode? (argument : Text) : Option (Argued Nat) :=
  match argument with
  | quote :: rest =>
      if quote = '"' ∨ quote = '\'' then
        some ⟨(rest.headD '\x00').toNat, if rest.length < 2 then none else some (.behindCharacter (rest.drop 1))⟩
      else none
  | [] => none

/-- What is wrong with an argument that has been read as a number up to a rest. -/
def faultBehind (rest : Text) (inRange : Bool) : Option NumberFault :=
  if rest ≠ [] then some .more else if inRange then none else some .range

/-- The whole number at the beginning of an argument. A number between bounds takes the place of one beyond
them. -/
def wholeNumber (least greatest : Int) (argument : Text) : Argued Int :=
  match characterCode? argument with
  | some ⟨code, fault⟩ => ⟨code, fault⟩
  | none =>
      let text := argument.dropWhile Arithmetic.isSpace
      let isNegative := text.head? = some '-'
      let digits := if isNegative ∨ text.head? = some '+' then text.drop 1 else text
      if (digits.head?.map Char.isDigit).getD false then
        let (size, rest) := Arithmetic.readNumber digits
        let value : Int := if isNegative then -(size : Int) else size
        let bounded := max least (min greatest value)
        ⟨bounded, faultBehind rest (value = bounded)⟩
      else ⟨0, if argument = [] then none else some .none⟩

/-- The whole number with a sign that an argument stands for. -/
def signedNumber (argument : Text) : Argued Int :=
  wholeNumber (-Arithmetic.greatest - 1) Arithmetic.greatest argument

/-- The machine word that an argument stands for: the greatest one if it is beyond all of them. -/
def wordNumber (argument : Text) : Argued Nat :=
  let most : Int := Arithmetic.range - 1
  let found := wholeNumber (-most) most argument
  ⟨if found.fault = some .range then most.toNat else (found.value % Arithmetic.range).toNat, found.fault⟩

/-- The floating number that an argument stands for. -/
def floatingNumber (argument : Text) : Argued Float :=
  match characterCode? argument with
  | some ⟨code, fault⟩ => ⟨code.toFloat, fault⟩
  | none =>
      match Floating.read? (argument.dropWhile Arithmetic.isSpace) with
      | some reading => ⟨reading.value, faultBehind reading.rest reading.inRange⟩
      | none => ⟨0, if argument = [] then none else some .none⟩

/-- What is said about an argument, if anything is wrong with it. The command of the shell does not mind what
follows a character. -/
def Argued.print {α : Type} (printer : Printer) (argument : Text) (argued : Argued α) (text : Text) : Print :=
  match argued.fault with
  | none => .ofText text
  | some (.behindCharacter rest) =>
      if printer = .command then .ofText text
      else
        let (message, status) := printer.complaint argument (.behindCharacter rest)
        (Print.ofMessage message status).followedBy (.ofText text)
  | some fault =>
      let (message, status) := printer.complaint argument fault
      (Print.ofMessage message status).followedBy (.ofText text)

/-- The widest that a field is made. -/
def widthLimit : Nat := 1000000

/-- From this width on no text can be made for a field. -/
def impossibleWidth : Nat := 2147483647

/-- A number as it is taken for a width: a machine word of half the size. -/
def narrow (value : Int) : Int :=
  (value + 2147483648) % 4294967296 - 2147483648

/-- A number in a field: from the next argument behind an asterisk, or from digits. Behind it are what has to be
said, the arguments that are left, and the text behind the number. -/
def readCount (printer : Printer) (arguments : List Text) : Text → Int × Print × List Text × Text
  | '*' :: rest =>
      let argument := arguments.headD []
      let argued := signedNumber argument
      (narrow argued.value, argued.print printer argument [], arguments.drop 1, rest)
  | text =>
      let (value, rest) := Arithmetic.readDecimal text
      (value, .ofText [], arguments, rest)

/-- A field that has been read up to its letter: its layout, whether it can be made, what has to be said about the
arguments that it takes, those that are left, and the format from the letter on. -/
structure Field where
  layout : Layout
  isPossible : Bool
  said : Print
  arguments : List Text
  format : Text

/-- Reads a field up to its letter. A width below zero asks for the left side, a precision below zero for
none. -/
def readField (printer : Printer) (arguments : List Text) (format : Text) : Field :=
  let (layout, format) := readFlags ⟨false, false, false, false, false, 0, none⟩ format
  let (width, said, arguments, format) := readCount printer arguments format
  let isPossible := decide (width.natAbs < impossibleWidth)
  let layout :=
    { layout with width := min widthLimit width.natAbs, toLeft := layout.toLeft || width < 0 }
  match format with
  | '.' :: format =>
      let (precision, further, arguments, format) := readCount printer arguments format
      let precision := if precision < 0 then none else some (min widthLimit precision.toNat)
      ⟨{ layout with precision }, isPossible, said.followedBy further, arguments, format⟩
  | format => ⟨layout, isPossible, said, arguments, format⟩

/-- The letters that tell how long a number is, which only the program passes over. -/
def withoutLengths (printer : Printer) (format : Text) : Text :=
  match printer with
  | .command => format
  | .program => format.dropWhile fun c => "hlLjtz".toList.contains c

/-- A text in quotes that a shell would read back: with single quotes if it has to be quoted, or with double
quotes around single ones. -/
def requoted (text : Text) : Text :=
  let isSafe (c : Char) : Bool := c.isAlphanum || "%+,-./:@_".toList.contains c
  if text ≠ [] ∧ text.all isSafe = true then text
  else if '\'' ∈ text ∧ (text.any fun c => "\"$`\\!".toList.contains c) = false then '"' :: text ++ ['"']
  else singleQuoted (text.flatMap fun c => if c = '\'' then "'\\''".toList else [c])

/-- Whether a field of the program is well formed: the letters for arguments with backslashes and in quotes stand
alone behind the percent sign, and flags and a precision go only with some letters. -/
def isWellFormed (written : Text) (letter : Char) : Bool :=
  let flags := (written.drop 1).takeWhile fun c => "-+ #0".toList.contains c
  if letter = 'b' ∨ letter = 'q' then written = ['%']
  else if letter = 'c' then !flags.contains '#' && !flags.contains '0' && !written.contains '.'
  else if letter = 's' then !flags.contains '#' && !flags.contains '0'
  else if letter = 'd' ∨ letter = 'i' ∨ letter = 'u' then !flags.contains '#'
  else true

/-- The field that a letter asks for, filled with an argument; none if there is no such field. -/
def fieldFor? (printer : Printer) (layout : Layout) (letter : Char) (argument : Text) : Option Print :=
  if letter = 's' then some (.ofText (layout.text argument))
  else if letter = 'b' then
    let (text, goesOn) := match printer with
      | .command => resolve argument
      | .program => resolveAll argument
    some ⟨[.output (layout.text text)], goesOn, 0⟩
  else if letter = 'c' then some (.ofText (layout.pad [argument.headD '\x00']))
  else if letter = 'd' ∨ letter = 'i' then
    let argued := signedNumber argument
    some (argued.print printer argument (layout.signed argued.value))
  else if "uoxX".toList.contains letter then
    let argued := wordNumber argument
    some (argued.print printer argument (layout.unsigned letter argued.value))
  else if "aAeEfFgG".toList.contains letter then
    let argued := floatingNumber argument
    some (argued.print printer argument (layout.floating letter argued.value))
  else if letter = 'q' ∧ printer = .program then some (.ofText (requoted argument))
  else none

/-- A character that a program names by a number of base sixteen, of four digits behind one letter and of eight
behind the other. One that is not in the locale's set is written as it is named. -/
def namedCharacter (mark : Char) (text : Text) : Print × Text :=
  let count := if mark = 'u' then 4 else 8
  let digits := (text.take count).takeWhile Floating.isHexDigit
  let code := Floating.hexValue digits
  let isPlain := code = 0x24 ∨ code = 0x40 ∨ code = 0x60
  if digits.length < count then
    (.malformed .program "missing hexadecimal number in escape".toList, text)
  else if (code < 0xa0 ∧ ¬ isPlain) ∨ (0xd800 ≤ code ∧ code ≤ 0xdfff) then
    (.malformed .program ("invalid universal character name \\".toList ++ mark :: digits), text)
  else if isPlain then (.ofText [Char.ofNat code], text.drop count)
  else
    let hex := (Nat.toDigits 16 code).map Char.toUpper
    let name := if code < 0x10000 then 'u' :: List.replicate (4 - hex.length) '0' ++ hex
      else 'U' :: List.replicate (8 - hex.length) '0' ++ hex
    (.ofText ('\\' :: name), text.drop count)

/-- What a backslash in a format stands for, in front of the text behind it. -/
def formatEscape (printer : Printer) (text : Text) : Print × Text :=
  match printer, text with
  | .program, 'c' :: rest => (.stop, rest)
  | .program, '"' :: rest => (.ofText ['"'], rest)
  | .program, mark :: rest =>
      if mark = 'x' then
        match hexEscape? rest with
        | some (c, rest) => (.ofText [c], rest)
        | none => (.malformed printer "missing hexadecimal number in escape".toList, rest)
      else if mark = 'u' ∨ mark = 'U' then namedCharacter mark rest
      else
        let (front, rest) := escape text
        (.ofText front, rest)
  | _, text =>
      let (front, rest) := escape text
      (.ofText front, rest)

/-- What a format prints once, and the arguments that are left. `fuel` bounds the steps. -/
def formatted (printer : Printer) : (fuel : Nat) → (format : Text) → (arguments : List Text) →
    Print × List Text
  | 0, _, arguments => (.stop, arguments)
  | _, [], arguments => (.ofText [], arguments)
  | fuel + 1, c :: format, arguments =>
      let behind (print : Print) (format : Text) (arguments : List Text) : Print × List Text :=
        if print.goesOn then
          let (after, left) := formatted printer fuel format arguments
          (print.followedBy after, left)
        else (print, arguments)
      if c = '\\' then
        let (print, format) := formatEscape printer format
        behind print format arguments
      else if c = '%' then
        if format.head? = some '%' then behind (.ofText ['%']) (format.drop 1) arguments
        else
          let field := readField printer arguments format
          let letters := withoutLengths printer field.format
          let written := '%' :: format.take (format.length - letters.length)
          let filled := letters.head?.bind fun letter =>
            if printer = .program ∧ isWellFormed written letter = false then none
            else fieldFor? printer field.layout letter (field.arguments.headD [])
          match filled with
          | some print =>
              if field.isPossible then
                behind (field.said.followedBy print) (letters.drop 1) (field.arguments.drop 1)
              else (field.said.followedBy (.malformed printer "xvsnprintf failed".toList), arguments)
          | none =>
              let message := printer.badDirective written letters.head?
              (field.said.followedBy (.malformed printer message), arguments)
      else behind (.ofText [c]) format arguments

/-- What a format prints as often as its arguments ask for. Arguments that it does not take are left, which only
the program minds. `fuel` bounds the repetitions. -/
def repeated (printer : Printer) : (fuel : Nat) → (format : Text) → (arguments : List Text) → Print
  | 0, _, _ => .ofText []
  | fuel + 1, format, arguments =>
      let (print, left) := formatted printer (format.length + 1) format arguments
      if print.goesOn && left ≠ [] then
        if left.length < arguments.length then print.followedBy (repeated printer fuel format left)
        else
          match printer with
          | .command => print
          | .program =>
              let message := "warning: ignoring excess arguments, starting with ".toList
                ++ singleQuoted (left.headD [])
              print.followedBy (.ofMessage message 0)
      else print

/-- What is printed by a format. -/
def formatPrint (printer : Printer) (format : Text) (arguments : List Text) : Print :=
  repeated printer (arguments.length + 1) format arguments

end SecureShell.Rehearsal.Shell.Printing
