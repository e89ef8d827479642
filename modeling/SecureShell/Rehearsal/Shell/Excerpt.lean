/-
Module: SecureShell.Rehearsal.Shell.Excerpt
Purpose: Programs that show a part of a text: its beginning or its end, in lines or in bytes, and fields or
  columns of its lines.
Main exports: head, tail, cut
-/
import SecureShell.Rehearsal.Shell.Filters

namespace SecureShell.Rehearsal.Shell.Filters

/-- Arguments in which the number of lines has its letter, if it stands right behind the first dash. -/
def withLetter : List Text → List Text
  | ('-' :: digit :: digits) :: rest =>
      if digit.isDigit then "-n".toList :: (digit :: digits) :: rest else ('-' :: digit :: digits) :: rest
  | arguments => arguments

/-- The options of the programs that show the beginning or the end. -/
def excerptOptions : OptionTable where
  plain := ['q', 'v', 'f', 'F', 'z']
  valued := ['n', 'c', 's']
  names := [("lines", 'n'), ("bytes", 'c'), ("quiet", 'q'), ("silent", 'q'), ("verbose", 'v'), ("follow", 'f'),
    ("zero-terminated", 'z')]

/-- The parts that are counted: the bytes of a text or its lines. -/
def parts (letter : Char) (text : Text) : List Text :=
  if letter = 'c' then text.map fun c => [c] else fullLines text

/-- How much is wanted: the letter of what is counted, and the number in writing. -/
def wanted (arguments : Arguments) : Char × Text :=
  (arguments.options.reverse.find? fun entry => entry.1 = 'n' || entry.1 = 'c').getD ('n', "10".toList)

/-- What is shown of each of several texts, perhaps with a headline. -/
def withHeadlines (program : String) (arguments : Arguments) (change : Text → Text) (given : List Given) :
    List Saying :=
  let hasHeadlines :=
    (arguments.has 'v' || decide (1 < arguments.operands.length)) && !arguments.has 'q'
  let headline (isFirst : Bool) (name : Text) : Text :=
    let called := if name = [] ∨ name = ['-'] then "standard input".toList else name
    if hasHeadlines then (if isFirst then [] else ['\n']) ++ "==> ".toList ++ called ++ " <==\n".toList else []
  let (sayings, _) := given.foldl (fun (sayings, isFirst) part =>
    let complaint := complaintOf (openingWording program) part
    match part.text with
    | .ok text => (sayings ++ [Saying.output (headline isFirst part.name ++ change text)], false)
    | .error .isDirectory =>
        (sayings ++ [.output (headline isFirst part.name), complaint .isDirectory], false)
    | .error cause => (sayings ++ [complaint cause], isFirst)) ([], true)
  sayings

/-- The units that stand behind a number, and what they multiply it by. -/
def units : List (String × Nat) :=
  [("", 1), ("b", 512), ("kB", 1000), ("K", 1024), ("KiB", 1024), ("k", 1024), ("MB", 1000000),
    ("M", 1048576), ("m", 1048576), ("MiB", 1048576), ("GB", 1000000000), ("G", 1073741824),
    ("GiB", 1073741824)]

/-- The number that digits with a unit behind them stand for. -/
def amount? (text : Text) : Option Nat := do
  let digits := text.takeWhile Char.isDigit
  let count ← count? digits
  let factor ← units.lookup (String.ofList (text.drop digits.length))
  pure (count * factor)

/-- The refusal of a number of lines or bytes. -/
def badAmount (letter : Char) (number : Text) : Misuse :=
  let words := if letter = 'c' then "invalid number of bytes: " else "invalid number of lines: "
  .plain words number

/-- The beginning of a text. Behind a dash stands how much is left out at the end. -/
def beginning (letter : Char) (number : Text) : Except Misuse (Text → Text) :=
  let digits := if number.head? = some '-' then number.drop 1 else number
  match amount? (if digits.head? = some '+' then digits.drop 1 else digits) with
  | none => .error (badAmount letter digits)
  | some count => .ok fun text =>
      let parts := parts letter text
      (if number.head? = some '-' then parts.take (parts.length - count) else parts.take count).flatten

/-- The end of a text. Behind a plus sign stands where it begins. -/
def ending (letter : Char) (number : Text) : Except Misuse (Text → Text) :=
  let isSigned := number.head?.any fun c => c = '+' || c = '-'
  match amount? (if isSigned then number.drop 1 else number) with
  | none => .error (badAmount letter number)
  | some count => .ok fun text =>
      let parts := parts letter text
      (parts.drop (if number.head? = some '+' then count - 1 else parts.length - count)).flatten

/-- What the program that shows the beginning wants of its input: as many lines or bytes as it shows. It reads no
more bytes than these, but lines only as they come. -/
def beginningDemand (letter : Char) (number : Text) : Demand where
  isEnough text := (amount? number).any fun count =>
    decide (count ≤ if letter = 'c' then text.length else text.count '\n')
  rest origin text :=
    match beginning letter number with
    | .ok change => if letter = 'c' ∨ origin = .file then text.drop (change text).length else []
    | .error _ => []

/-- The program that shows the beginning. -/
def head (arguments : List Text) : Except Misuse Filter := do
  let arguments ← { excerptOptions with plain := ['q', 'v', 'z'], valued := ['n', 'c'] }.read (withLetter arguments)
  let (letter, number) := wanted arguments
  let change ← beginning letter number
  pure
    { answer := withHeadlines "head" arguments change
      files := arguments.operands
      demand := beginningDemand letter number }

/-- The program that shows the end. It may go on to wait for more at the end of a file. -/
def tail (arguments : List Text) : Except Misuse Filter := do
  let arguments ← excerptOptions.read (withLetter arguments)
  let (letter, number) := wanted arguments
  let change ← ending letter number
  let follows := (arguments.has 'f' || arguments.has 'F') && arguments.operands ≠ []
  pure
    { answer := withHeadlines "tail" arguments change
      files := arguments.operands
      isEndless := follows
      demand := { rest := fun origin text => if origin = .file ∧ amount? number = some 0 then text else [] } }

/-- The first and the last number of a range; an open end has none. -/
def range? (text : Text) : Option (Nat × Option Nat) := do
  let range ← match Text.segments '-' text with
    | [only] => (count? only).map fun value => (value, some value)
    | [[], last] => (count? last).map fun value => (1, some value)
    | [first, []] => (count? first).map fun value => (value, none)
    | [first, last] => do pure (← count? first, some (← count? last))
    | _ => none
  if range.1 = 0 ∨ range.2.any (· < range.1) = true then none else some range

/-- Whether a number is in one of some ranges. -/
def inRanges (ranges : List (Nat × Option Nat)) (number : Nat) : Bool :=
  ranges.any fun range => range.1 ≤ number && range.2.all (number ≤ ·)

/-- The items whose numbers, from one on, are wanted. -/
def picked {α : Type} (isWanted : Nat → Bool) (items : List α) : List α :=
  (items.zipIdx 1).filterMap fun entry => if isWanted entry.2 then some entry.1 else none

/-- The letter of an option that has only a name: all parts but those that are named are shown. -/
def complementLetter : Char := '∁'

/-- The letter of an option that has only a name: what stands between fields that are shown. -/
def jointLetter : Char := '⋈'

/-- The options of the program that shows fields or columns. -/
def cutOptions : OptionTable where
  plain := ['s', 'n', 'z', complementLetter]
  valued := ['d', 'f', 'c', 'b', jointLetter]
  names := [("delimiter", 'd'), ("fields", 'f'), ("characters", 'c'), ("bytes", 'b'), ("only-delimited", 's'),
    ("complement", complementLetter), ("output-delimiter", jointLetter), ("zero-terminated", 'z')]

/-- The ranges that a list names. -/
def ranges (letter : Char) (list : Text) : Except Misuse (List (Nat × Option Nat)) :=
  let kind := if letter = 'f' then "field" else "byte/character position"
  match (list.splitBy fun left right => (left ∈ [',', ' ']) = (right ∈ [',', ' '])).filter fun part =>
      part.all fun c => c ∉ [',', ' '] with
  | [] => .error ⟨(if letter = 'f' then "fields are numbered from 1"
      else "byte/character positions are numbered from 1").toList, true⟩
  | parts => parts.mapM fun part =>
      match range? part with
      | some range => .ok range
      | none =>
          if part = ['-'] then .error ⟨"invalid range with no endpoint: -".toList, true⟩
          else if part.any fun c => !c.isDigit && c ≠ '-' then
            .error ⟨"invalid ".toList ++ kind.toList ++ " value ".toList ++ singleQuoted part, true⟩
          else if (Text.segments '-' part).any fun digits => digits ≠ [] && Nat.ofDigitChars 10 digits 0 = 0 then
            .error ⟨(if letter = 'f' then "fields are numbered from 1"
              else "byte/character positions are numbered from 1").toList, true⟩
          else if 2 < (Text.segments '-' part).length then
            .error ⟨"invalid ".toList ++ kind.toList ++ " range".toList, true⟩
          else .error ⟨"invalid decreasing range".toList, true⟩

/-- What the program that shows fields or columns is asked for: a letter and a list. -/
def cutList (arguments : Arguments) : Except Misuse (Char × Text) :=
  match arguments.options.filter fun entry => ['f', 'c', 'b'].contains entry.1 with
  | [only] => .ok only
  | [] => .error ⟨"you must specify a list of bytes, characters, or fields".toList, true⟩
  | _ => .error ⟨"only one list may be specified".toList, true⟩

/-- The program that shows fields or columns. A line without a delimiter is shown as it is, or not at all. -/
def cut (arguments : List Text) : Except Misuse Filter := do
  let arguments ← cutOptions.read arguments
  let (letter, list) ← cutList arguments
  let delimiter ← match arguments.value? 'd' with
    | none => pure '\t'
    | some [] => pure '\x00'
    | some [c] => pure c
    | some _ => throw ⟨"the delimiter must be a single character".toList, true⟩
  if letter ≠ 'f' ∧ (arguments.value? 'd').isSome = true then
    throw ⟨"an input delimiter may be specified only when operating on fields".toList, true⟩
  if letter ≠ 'f' ∧ arguments.has 's' = true then
    throw ⟨"suppressing non-delimited lines makes sense\n\tonly when operating on fields".toList, true⟩
  let ranges ← ranges letter list
  let isWanted (number : Nat) : Bool := inRanges ranges number != arguments.has complementLetter
  let fields (line : Text) : List Text :=
    match Text.segments delimiter line with
    | [_] => if arguments.has 's' then [] else [line]
    | fields => [List.intercalate ((arguments.value? jointLetter).getD [delimiter]) (picked isWanted fields)]
  let columns (line : Text) : Text :=
    match arguments.value? jointLetter with
    | none => picked isWanted line
    | some joint => List.intercalate joint (columnRuns isWanted line)
  let change (line : Text) : List Text := if letter = 'f' then fields line else [columns line]
  pure (Filter.ofEach (usualWording "cut") (fun text => ofLines ((linesOf text).flatMap change))
    arguments.operands)
where
  /-- The runs of columns that are wanted. -/
  columnRuns (isWanted : Nat → Bool) (line : Text) : List Text :=
    let runs := (line.zipIdx 1).splitBy fun left right => isWanted left.2 = isWanted right.2
    (runs.filter fun run => run.any fun entry => isWanted entry.2).map fun run => run.map (·.1)

end SecureShell.Rehearsal.Shell.Filters
