/-
Module: SecureShell.Rehearsal.Shell.Filters
Purpose: A filter is a program that makes one text of the texts that it is given: of files, or of its input.
  Most of them deal with lines.
Main exports: Given, Saying, Filter, fullLines, bare, linesOf, ofLines
-/
import SecureShell.Rehearsal.Shell.Arguments
import SecureShell.Rehearsal.Shell.State

namespace SecureShell.Rehearsal.Shell.Filters

/-- What a program is given to read: a name, which is empty for the input, the kind of thing that it is, and
its text or why it cannot be read. -/
structure Given where
  name : Text
  origin : Origin
  text : Except SystemError Text

/-- Something that a program says: a part of its output, or a message. -/
inductive Saying where
  | output (text : Text)
  | message (text : Text)
deriving DecidableEq, Repr

/-- The status of a program of which a part of what it has been given cannot be read, by the reason. -/
def failing (failure : SystemError → Nat) (given : List Given) : Nat :=
  given.foldl (fun status part => match part.text with
    | .ok _ => status
    | .error cause => max status (failure cause)) 0

/-- What a program wants of its input: whether a text is enough although more may come, and what it leaves of a
text from a thing of a kind. A program may give back what it has read beyond its need, but only to a file. -/
structure Demand where
  isEnough : Text → Bool := fun _ => false
  rest : Origin → Text → Text := fun _ _ => []

/-- What a program does: what it says to that which it is given, the files that it reads, and its status. An
endless one waits for more in the end. Its output may go into a file, or else to where the output goes that is not
its own; if that file cannot be opened, this is told behind some words, and the program has failed with a status. -/
structure Filter where
  answer : List Given → List Saying
  files : List Text
  isEndless : Bool := false
  status : List Given → Nat := failing fun _ => 1
  demand : Demand := {}
  goal : Option Text := none
  unopened : String := ""
  unopenedStatus : Nat := 1

/-- The wording in which a program tells that a file cannot be read. -/
abbrev Wording := (name : Text) → SystemError → Text

/-- A message of a program about what it has been given. -/
def complaintOf (wording : Wording) (part : Given) (cause : SystemError) : Saying :=
  .message (wording part.name cause ++ ['\n'])

/-- The most common wording: the name of the program, the name of the file and the reason. -/
def usualWording (program : String) : Wording := fun name cause =>
  program.toList ++ ": ".toList ++ (if name = [] then ['-'] else name) ++ ": ".toList ++ cause.reason

/-- The wording of programs that tell whether a file could not be opened or not be read. -/
def openingWording (program : String) : Wording := fun name cause =>
  let called := if name = [] ∨ name = ['-'] then "standard input".toList else name
  program.toList ++ ": ".toList
    ++ (if cause = .isDirectory then "error reading ".toList ++ singleQuoted called
      else "cannot open ".toList ++ singleQuoted called ++ " for reading".toList)
    ++ ": ".toList ++ cause.reason

/-- The messages about what cannot be read. -/
def complaints (wording : Wording) (given : List Given) : List Saying :=
  given.filterMap fun part => match part.text with
    | .ok _ => none
    | .error cause => some (complaintOf wording part cause)

/-- The texts that can be read. -/
def textsOf (given : List Given) : List Text :=
  given.filterMap (·.text.toOption)

/-- The filter that changes all texts together. -/
def Filter.ofWhole (wording : Wording) (change : Text → Text) (files : List Text) : Filter where
  answer given := complaints wording given ++ [.output (change (textsOf given).flatten)]
  files

/-- The filter that changes each text. -/
def Filter.ofEach (wording : Wording) (change : Text → Text) (files : List Text) : Filter where
  answer given := given.map fun part => match part.text with
    | .ok text => .output (change text)
    | .error cause => complaintOf wording part cause
  files

/-- The lines of a text, each with its line feed if it has one. -/
def fullLines : Text → List Text
  | [] => []
  | c :: rest =>
      if c = '\n' then [c] :: fullLines rest
      else
        match fullLines rest with
        | [] => [[c]]
        | first :: others => (c :: first) :: others

/-- A line without its line feed. -/
def bare (line : Text) : Text :=
  line.filter (· ≠ '\n')

/-- The lines of a text without their line feeds. -/
def linesOf (text : Text) : List Text :=
  (fullLines text).map bare

/-- The text of lines, each with a line feed. -/
def ofLines (lines : List Text) : Text :=
  lines.flatMap (· ++ ['\n'])

/-- Applies a change to every line and leaves the line feeds. -/
def onLines (change : Text → Text) (text : Text) : Text :=
  (fullLines text).flatMap fun line =>
    change (bare line) ++ if line.getLast? = some '\n' then ['\n'] else []

/-- A number to the right of a column. -/
def inColumn (width : Nat) (number : Nat) : Text :=
  let digits := Text.decimal number
  List.replicate (width - digits.length) ' ' ++ digits

end SecureShell.Rehearsal.Shell.Filters
