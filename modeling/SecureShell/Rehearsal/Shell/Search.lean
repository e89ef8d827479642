/-
Module: SecureShell.Rehearsal.Shell.Search
Purpose: The program that looks for lines in which an expression stands for a part. Its options tell what counts
  as a part, which lines are wanted, and what is told about them.
Main exports: SearchOrder, SearchOrder.read, SearchOrder.reported
-/
import SecureShell.Rehearsal.Shell.ExpressionSigns
import SecureShell.Rehearsal.Shell.Filters

namespace SecureShell.Rehearsal.Shell

open Filters (Saying)

/-- How many lines around a wanted one are shown: those before it and those behind it. -/
structure Surroundings where
  before : Nat
  behind : Nat
deriving DecidableEq, Repr

/-- An order to search: the options, the expressions, whether they are to stand for whole lines or for words, the
most lines that are wanted, what is shown around them, and the files. -/
structure SearchOrder where
  options : Arguments
  expressions : List Expression
  most : Option Nat
  around : Surroundings
  files : List Text

namespace SearchOrder

/-- The options of the program. Options that have only a name are given letters that nobody writes. -/
def optionTable : OptionTable where
  plain := ['E', 'F', 'G', 'P', 'i', 'y', 'w', 'x', 'z', 's', 'v', 'c', 'L', 'l', 'o', 'q', 'b', 'H', 'h', 'n', 'T',
    'Z', 'a', 'I', 'r', 'R', 'U', 'u', 'Λ', 'Ι', 'Ξ', 'V', 'Η']
  valued := ['e', 'f', 'm', 'A', 'B', 'C', 'd', 'D', 'Β', 'ν', 'Ε', 'Δ', 'λ', 'Σ']
  optional := ['κ']
  names := [("extended-regexp", 'E'), ("fixed-strings", 'F'), ("basic-regexp", 'G'), ("perl-regexp", 'P'),
    ("regexp", 'e'), ("file", 'f'), ("ignore-case", 'i'), ("no-ignore-case", 'Ι'), ("word-regexp", 'w'),
    ("line-regexp", 'x'), ("null-data", 'z'), ("no-messages", 's'), ("invert-match", 'v'), ("version", 'V'),
    ("help", 'Η'), ("max-count", 'm'), ("byte-offset", 'b'), ("line-number", 'n'), ("line-buffered", 'Λ'),
    ("with-filename", 'H'), ("no-filename", 'h'), ("label", 'λ'), ("only-matching", 'o'), ("quiet", 'q'),
    ("silent", 'q'), ("binary-files", 'Β'), ("text", 'a'), ("directories", 'd'), ("devices", 'D'),
    ("recursive", 'r'), ("dereference-recursive", 'R'), ("include", 'ν'), ("exclude", 'Ε'),
    ("exclude-dir", 'Δ'), ("files-without-match", 'L'), ("files-with-matches", 'l'), ("count", 'c'),
    ("initial-tab", 'T'), ("null", 'Z'), ("before-context", 'B'), ("after-context", 'A'), ("context", 'C'),
    ("group-separator", 'Σ'), ("no-group-separator", 'Ξ'), ("color", 'κ'), ("colour", 'κ'), ("binary", 'U')]

/-- Arguments in which digits right behind a dash are the value of the letter that asks for lines around. -/
def withContext : List Text → List Text
  | [] => []
  | argument :: rest =>
      match argument with
      | '-' :: digit :: digits =>
          if argument = "--".toList then argument :: rest
          else if digit.isDigit ∧ digits.all Char.isDigit = true then
            ("-C".toList ++ digit :: digits) :: withContext rest
          else argument :: withContext rest
      | _ => argument :: withContext rest

/-- A refusal that does not tell how to ask for help. -/
def refusal (words : Text) : Misuse := ⟨words, false⟩

/-- The number that the value of an option stands for. -/
def amount (found : Arguments) (letter : Char) (wrong : Text → Text) : Except Misuse (Option Nat) :=
  match found.value? letter with
  | none => .ok none
  | some value =>
      match count? value with
      | some count => .ok (some count)
      | none => .error (refusal (wrong value))

/-- How many lines around a wanted one are shown. -/
def surroundings (found : Arguments) : Except Misuse Surroundings := do
  let wrong (value : Text) : Text := value ++ ": invalid context length argument".toList
  let both ← amount found 'C' wrong
  let before ← amount found 'B' wrong
  let behind ← amount found 'A' wrong
  pure ⟨before.getD (both.getD 0), behind.getD (both.getD 0)⟩

/-- Reads the expressions, which stand in lines. -/
def readExpressions (letter : Option Char) (texts : List Text) : Except Misuse (List Expression) :=
  texts.mapM fun text =>
    if letter = some 'F' then .ok (Expression.ofText text)
    else if text.head? = some '[' ∧ text[1]? = some ':' ∧ ":]".toList.isSuffixOf text then
      .error (refusal "character class syntax is [[:space:]], not [:space:]".toList)
    else
      let style := if letter = some 'E' ∨ letter = some 'P' then ExpressionStyle.lenient else .basic
      match Expression.read style text with
      | .ok expression => .ok expression
      | .error fault => .error (refusal fault.message.toList)

/-- The files that hold expressions. -/
def expressionFiles (found : Arguments) : List Text :=
  (found.options.filter (·.1 = 'f')).map (·.2)

/-- The texts of the expressions, and the operands behind that: the values of options, of which some name files
whose lines they are, or else the lines of the first operand; none if there is no such operand. -/
def wanted? (found : Arguments) (fileText : Text → Text) : Option (List Text × List Text) :=
  let given := found.options.filter fun entry => entry.1 = 'e' || entry.1 = 'f'
  let texts := given.flatMap fun (letter, value) =>
    if letter = 'e' then Text.segments '\n' value else Filters.linesOf (fileText value)
  match given, found.operands with
  | [], [] => none
  | [], first :: files => some (Text.segments '\n' first, files)
  | _, files => some (texts, files)

/-- The options and operands among arguments. -/
def readArguments (arguments : List Text) : Except Misuse Arguments :=
  (optionTable.read (withContext arguments)).mapError fun misuse =>
    { misuse with words := misuse.words ++ "\nUsage: grep [OPTION]... PATTERNS [FILE]...".toList }

/-- The order that options and operands give, and the texts that are looked for. Without an option for it the
way in which expressions are written is known by a letter. -/
def ofArguments (letter : Option Char) (found : Arguments) (texts files : List Text) :
    Except Misuse SearchOrder := do
  let kinds := found.options.filterMap fun entry =>
    if "EFGP".toList.contains entry.1 then some entry.1 else none
  if kinds.contains 'P' = false ∧ kinds.contains 'F' = true ∧ kinds.contains 'E' = true then
    throw (refusal "conflicting matchers specified".toList)
  let most ← amount found 'm' fun _ => "invalid max count".toList
  let around ← surroundings found
  let expressions ← readExpressions (kinds.getLast?.or letter) texts
  pure ⟨found, expressions, most, around, files⟩

/-- Whether an option has been given. -/
def has (order : SearchOrder) (letter : Char) : Bool :=
  order.options.has letter

/-- Whether case does not matter. -/
def folds (order : SearchOrder) : Bool :=
  order.options.lastOf? ['i', 'y', 'Ι'] |>.any (· ≠ 'Ι')

/-- Whether a part counts by the places where it begins and ends: it may have to be the whole line, or to stand
between ends of words. -/
def counts (order : SearchOrder) (first last : Spot) : Bool :=
  if order.has 'x' then first.before.isNone && last.rest = []
  else if order.has 'w' then !first.before.any isWordChar && !last.rest.head?.any isWordChar
  else true

/-- The first of the parts of a text that expressions stand for, and of those at one place the longest. -/
def firstPart (order : SearchOrder) (before : Option Char) (text : Text) : Option Occurrence :=
  let found := order.expressions.filterMap fun expression =>
    expression.searchFrom ⟨order.folds, expression.hasAgain, false⟩ order.counts before [] text
  found.foldl (fun best next => match best with
    | none => some next
    | some best =>
        let isBetter := next.before.length < best.before.length
          || (next.before.length = best.before.length && best.part.length < next.part.length)
        if isBetter then some next else some best) none

/-- All parts of a line that are not empty, one after the other, each with its place in the line. `fuel` bounds
the steps. -/
def allParts (order : SearchOrder) : (fuel : Nat) → (before : Option Char) → (place : Nat) → Text →
    List (Nat × Text)
  | 0, _, _, _ => []
  | fuel + 1, before, place, text =>
      match order.firstPart before text with
      | none => []
      | some found =>
          let start := place + found.before.length
          match found.part.getLast?, found.behind with
          | some last, behind =>
              (start, found.part) :: allParts order fuel (some last) (start + found.part.length) behind
          | none, c :: behind => allParts order fuel (some c) (start + 1) behind
          | none, [] => []

/-- A line with its number, its place in the text, and whether it is wanted. -/
structure NumberedLine where
  text : Text
  number : Nat
  place : Nat
  isWanted : Bool

/-- The sign at the end of a line. -/
def lineMark (order : SearchOrder) : Char :=
  if order.has 'z' then '\x00' else '\n'

/-- The lines from one on, behind some that are wanted. The next that would be wanted behind the most that may be,
ends them. -/
def linesFrom (order : SearchOrder) : (number place count : Nat) → List Text → List NumberedLine
  | _, _, _, [] => []
  | number, place, count, line :: rest =>
      let isWanted := (order.firstPart none line).isSome != order.has 'v'
      if isWanted && order.most.any (· ≤ count) then []
      else
        ⟨line, number, place, isWanted⟩
          :: linesFrom order (number + 1) (place + line.length + 1) (if isWanted then count + 1 else count) rest

/-- The lines of a text. -/
def numberedLines (order : SearchOrder) (text : Text) : List NumberedLine :=
  let segments := Text.segments order.lineMark text
  order.linesFrom 1 0 0 (if segments.getLast? = some [] then segments.dropLast else segments)

/-- How many lines are wanted. -/
def wantedCount (lines : List NumberedLine) : Nat :=
  (lines.filter (·.isWanted)).length

/-- What stands in front of what is shown of a line: the name of the text, the number and the place, each with a
mark behind it. -/
def front (order : SearchOrder) (name : Option Text) (mark : Char) (line : NumberedLine) (place : Nat) : Text :=
  let aligned (least number : Nat) : Text :=
    if order.has 'T' then Filters.inColumn least number else Text.decimal number
  let named := match name with
    | some name => name ++ [if order.has 'Z' then '\x00' else mark]
    | none => []
  let numbered := if order.has 'n' then aligned 2 line.number ++ [mark] else []
  let placed := if order.has 'b' then aligned 4 place ++ [mark] else []
  let front := named ++ numbered ++ placed
  if order.has 'T' ∧ front ≠ [] then front ++ ['\t'] else front

/-- What is shown of a wanted line: itself, or the parts that count. -/
def shownWanted (order : SearchOrder) (name : Option Text) (line : NumberedLine) : Text :=
  if order.has 'o' then
    if order.has 'v' then []
    else (order.allParts (line.text.length + 1) none 0 line.text).flatMap fun (place, part) =>
      order.front name ':' line (line.place + place) ++ part ++ [order.lineMark]
  else order.front name ':' line line.place ++ line.text ++ [order.lineMark]

/-- The sign between groups of lines that do not follow one another. -/
def groupMark (order : SearchOrder) : Text :=
  match order.options.lastOf? ['Σ', 'Ξ'], order.options.value? 'Σ' with
  | some 'Σ', some mark => mark ++ ['\n']
  | some _, _ => []
  | _, _ => "--\n".toList

/-- Whether lines are wanted or follow a wanted one at no more than a distance. `left` is how many more do. -/
def follows (distance : Nat) : (left : Nat) → List NumberedLine → List Bool
  | _, [] => []
  | left, line :: rest =>
      if line.isWanted then true :: follows distance distance rest
      else decide (0 < left) :: follows distance (left - 1) rest

/-- The lines that are shown: wanted ones and those around them. -/
def chosenLines (order : SearchOrder) (lines : List NumberedLine) : List NumberedLine :=
  let behind := follows order.around.behind 0 lines
  let before := (follows order.around.before 0 lines.reverse).reverse
  ((lines.zip (behind.zip before)).filter fun entry => entry.2.1 || entry.2.2).map (·.1)

/-- Whether lines around wanted ones have been asked for, be it none of them. -/
def hasContext (order : SearchOrder) : Bool :=
  order.has 'A' || order.has 'B' || order.has 'C'

/-- What is shown of lines. `last` is the number of the last one that has been shown; it is zero for one of
another text, and there is none if nothing has been shown. -/
def shownLines (order : SearchOrder) (name : Option Text) : (last : Option Nat) → List NumberedLine → Text
  | _, [] => []
  | last, line :: rest =>
      let gap := if order.hasContext && last.any fun last => last = 0 || last + 1 < line.number
        then order.groupMark else []
      let text :=
        if line.isWanted then order.shownWanted name line
        else if order.has 'o' then []
        else order.front name '-' line line.place ++ line.text ++ [order.lineMark]
      gap ++ text ++ shownLines order name (some line.number) rest

/-- How texts with null characters are taken: as others, as if no line were wanted, or so that only the fact is
told that one is. -/
inductive NullTexts where
  | shown
  | passed
  | told
deriving DecidableEq, Repr

/-- How texts with null characters are taken. -/
def nullTexts (order : SearchOrder) : NullTexts :=
  match order.options.lastOf? ['a', 'I', 'Β'], order.options.value? 'Β' with
  | some 'a', _ => .shown
  | some 'I', _ => .passed
  | some _, some kind =>
      if kind = "text".toList then .shown else if kind = "without-match".toList then .passed else .told
  | _, _ => if order.has 'z' then .shown else .told

/-- What is said about a text with a name, which is shown if `isNamed`, and whether a line is wanted. `hasShown`
tells whether lines of another one have been shown. -/
def reported (order : SearchOrder) (isNamed hasShown : Bool) (name text : Text) : List Saying × Bool :=
  let treatment := if '\x00' ∈ text then order.nullTexts else .shown
  let lines := if treatment = .passed ∨ order.most = some 0 then [] else order.numberedLines text
  let count := wantedCount lines
  let isFound := decide (0 < count)
  let shownName := if isNamed then some name else none
  let nameEnd := if order.has 'Z' then ['\x00'] else ['\n']
  let sayings : List Saying :=
    if order.has 'q' then []
    else
      match order.options.lastOf? ['l', 'L'] with
      | some letter => if isFound = decide (letter = 'l') then [.output (name ++ nameEnd)] else []
      | none =>
          if order.has 'c' then
            let mark := if order.has 'Z' then ['\x00'] else [':']
            [.output ((shownName.map (· ++ mark)).getD [] ++ Text.decimal count ++ ['\n'])]
          else if treatment = .told then
            if isFound then [.message ("grep: ".toList ++ name ++ ": binary file matches\n".toList)] else []
          else
            [.output (order.shownLines shownName (if hasShown then some 0 else none) (order.chosenLines lines))]
  (sayings, isFound)

/-- Whether nothing can be wanted, so that no text is read: no line, or all lines without a part that every line
has. -/
def isVain (order : SearchOrder) : Bool :=
  order.most = some 0
    || (order.expressions = [.empty] && order.has 'v' && !order.has 'x' && !order.has 'w' && !order.has 'L')

/-- Whether a text is enough of one that goes on: nothing behind it could change what is said. -/
def isEnough (order : SearchOrder) (text : Text) : Bool :=
  let count := wantedCount ({ order with most := none }.numberedLines text)
  if order.has 'q' || order.has 'l' || order.has 'L' then decide (0 < count)
  else order.around.behind = 0 && order.most.any (· ≤ count)

/-- What is left of a text behind the last line that is wanted, if no more are. -/
def restBehind (order : SearchOrder) (text : Text) : Text :=
  let lines := order.numberedLines text
  match order.most, (lines.filter (·.isWanted)).getLast? with
  | some most, some last => if most ≤ wantedCount lines then text.drop (last.place + last.text.length + 1) else []
  | _, _ => []

/-- What is wanted of the input. -/
def demand (order : SearchOrder) : Filters.Demand where
  isEnough := order.isEnough
  rest origin text := if origin = .file then order.restBehind text else []

end SearchOrder

end SecureShell.Rehearsal.Shell
