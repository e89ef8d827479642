/-
Module: SecureShell.Rehearsal.Shell.Counts
Purpose: The program that counts the lines, words and bytes of texts. Each text has a row with a column for
  each count, and several texts have one more row for their totals. All columns have the same width, which
  depends on how much there is to count.
Main exports: wc
-/
import SecureShell.Rehearsal.Shell.Arithmetic
import SecureShell.Rehearsal.Shell.Filters

namespace SecureShell.Rehearsal.Shell.Filters

/-- The words of a text. -/
def wordCount (text : Text) : Nat :=
  ((text.splitBy fun left right => Arithmetic.isSpace left = Arithmetic.isSpace right).filter fun run =>
    !run.any Arithmetic.isSpace).length

/-- The length of the longest line of a text. -/
def longestLine (text : Text) : Nat :=
  (linesOf text).foldl (fun longest line => max longest line.length) 0

/-- What can be counted, by its letter, in the order of the columns. -/
def counts : List (Char × (Text → Nat)) :=
  [('l', (·.count '\n')), ('w', wordCount), ('m', List.length), ('c', List.length), ('L', longestLine)]

/-- What is counted if nothing is asked for. -/
def usualCounts : Text := ['l', 'w', 'c']

/-- The options of the program that counts. -/
def countOptions : OptionTable where
  plain := counts.map (·.1)
  valued := []
  names := [("lines", 'l'), ("words", 'w'), ("chars", 'm'), ("bytes", 'c'), ("max-line-length", 'L')]

/-- How wide columns are if how much there is to count cannot be told. -/
def unknownWidth : Nat := 7

/-- Whether a part is there, though perhaps a directory. -/
def isThere (part : Given) : Bool :=
  match part.text with
  | .ok _ => true
  | .error cause => cause = .isDirectory

/-- The width of the columns. A single number needs none. -/
def columnWidth (columns : Nat) (given : List Given) : Nat :=
  match given with
  | [] => 1
  | first :: rest =>
      if (rest.isEmpty ∧ columns = 1) ∨ isThere first = false then 1
      else
        let known := given.filter isThere
        let files := known.filter fun part => part.origin = .file && part.text.isOk
        let total := files.foldl (fun total part => total + (part.text.toOption.getD []).length) 0
        max (Text.decimal total).length (if files.length < known.length then unknownWidth else 1)

/-- A row of numbers with a name behind them. -/
def row (width : Nat) (name : Text) (numbers : List Nat) : Text :=
  List.intercalate [' '] (numbers.map (inColumn width)) ++ (if name = [] then [] else ' ' :: name) ++ ['\n']

/-- The number that stands for several in the row of the totals. -/
def total (letter : Char) (numbers : List Nat) : Nat :=
  numbers.foldl (if letter = 'L' then max else (· + ·)) 0

/-- The rows for what is given. A directory counts as empty. -/
def rows (letters : Text) (given : List Given) : List Saying :=
  let columns := counts.filter fun entry => letters.contains entry.1
  let width := columnWidth columns.length given
  let numbers (text : Text) : List Nat := columns.map fun entry => entry.2 text
  let rows := given.flatMap fun part => match part.text with
    | .ok text => [Saying.output (row width part.name (numbers text))]
    | .error cause =>
        complaintOf (usualWording "wc") part cause
          :: if cause = .isDirectory then [.output (row width part.name (numbers []))] else []
  let totals := columns.map fun entry => total entry.1 ((textsOf given).map entry.2)
  rows ++ if 1 < given.length then [.output (row width "total".toList totals)] else []

/-- The program that counts. -/
def wc (arguments : List Text) : Except Misuse Filter := do
  let arguments ← countOptions.read arguments
  let letters := if arguments.options = [] then usualCounts else arguments.options.map (·.1)
  pure { answer := rows letters, files := arguments.operands }

end SecureShell.Rehearsal.Shell.Filters
