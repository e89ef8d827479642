/-
Module: SecureShell.Rehearsal.Shell.Ordering
Purpose: Programs that put lines in an order, and that show lines which follow each other and are the same
  only once.
Main exports: LineOrder, sort, uniq
-/
import SecureShell.Rehearsal.Shell.Arithmetic
import SecureShell.Rehearsal.Shell.Filters
import SecureShell.Rehearsal.Shell.SortKeys

namespace SecureShell.Rehearsal.Shell.Filters

/-- Runs of lines that are the same as the first of their run. -/
def runs (same : Text → Text → Bool) (lines : List Text) : List (List Text) :=
  let found := lines.foldl (fun found line => match found with
    | (run, first) :: others =>
        if same first line then (line :: run, first) :: others else ([line], line) :: found
    | [] => [([line], line)]) ([] : List (List Text × Text))
  found.reverse.map fun entry => entry.1.reverse

/-- The options of the program that puts lines in an order. -/
def sortOptions : OptionTable where
  plain := ['b', 'd', 'f', 'g', 'h', 'i', 'M', 'n', 'R', 'r', 'V', 'c', 'C', 'm', 's', 'u', 'z', 'Δ']
  valued := ['k', 't', 'o', 'S', 'T', 'y', 'Σ', 'Ρ', 'Β', 'Φ', 'Π', 'Κ']
  optional := ['Χ']
  names := [("ignore-leading-blanks", 'b'), ("dictionary-order", 'd'), ("ignore-case", 'f'),
    ("general-numeric-sort", 'g'), ("human-numeric-sort", 'h'), ("ignore-nonprinting", 'i'),
    ("month-sort", 'M'), ("numeric-sort", 'n'), ("random-sort", 'R'), ("random-source", 'Ρ'), ("reverse", 'r'),
    ("sort", 'Σ'), ("version-sort", 'V'), ("batch-size", 'Β'), ("check", 'Χ'), ("compress-program", 'Π'),
    ("debug", 'Δ'), ("files0-from", 'Φ'), ("key", 'k'), ("merge", 'm'), ("output", 'o'), ("stable", 's'),
    ("buffer-size", 'S'), ("field-separator", 't'), ("temporary-directory", 'T'), ("parallel", 'Κ'),
    ("unique", 'u'), ("zero-terminated", 'z')]

/-- The kinds of order that have a name besides a letter. -/
def orderNames : List (String × Char) :=
  [("general-numeric", 'g'), ("human-numeric", 'h'), ("month", 'M'), ("numeric", 'n'), ("random", 'R'),
    ("version", 'V')]

/-- An order of lines: the separator of fields, the keys one after the other, whether lines that are the same by
keys keep their order, and whether whole lines are compared the other way round. -/
structure LineOrder where
  separator : Option Char
  keys : List SortKey
  isStable : Bool
  isReversed : Bool

/-- How two lines compare by all keys. -/
def LineOrder.byKeys (order : LineOrder) (left right : Text) : Ordering :=
  order.keys.foldl (fun found key => found.then (key.compare order.separator left right)) .eq

/-- How two lines compare. -/
def LineOrder.compare (order : LineOrder) (left right : Text) : Ordering :=
  let whole := SortKey.compareTexts left right
  match order.byKeys left right with
  | .eq =>
      if order.isStable && order.keys ≠ [] then .eq else if order.isReversed then whole.swap else whole
  | found => found

/-- Whether lines are the same if they are to be shown only once. -/
def LineOrder.same (order : LineOrder) (left right : Text) : Bool :=
  if order.keys = [] then left = right else order.byKeys left right = .eq

/-- Arguments in which old ways to write keys are options: behind a plus sign stand the fields and characters that
are passed. -/
def withKeys : List Text → List Text
  | ('+' :: digit :: rest) :: others =>
      if digit.isDigit then
        let digits := (digit :: rest).takeWhile Char.isDigit
        let behind := (digit :: rest).drop digits.length
        let field := Text.decimal (Nat.ofDigitChars 10 digits 0 + 1)
        "-k".toList :: (field ++ behind) :: others
      else ('+' :: digit :: rest) :: others
  | arguments => arguments

/-- The separator that is the value of an option. -/
def readSeparator : Option Text → Except Misuse (Option Char)
  | none => .ok none
  | some [] => .error ⟨"empty tab".toList, false⟩
  | some [c] => .ok (some c)
  | some text => if text = "\\0".toList then .ok (some '\x00') else .error (.plain "multi-character tab " text)

/-- The order of lines that arguments ask for. A key without options of its own has those of all keys. -/
def readOrder (arguments : Arguments) : Except Misuse LineOrder := do
  let letters ← arguments.options.filterMapM fun (letter, value) =>
    if letter = 'Σ' then
      match orderNames.filter fun entry => value.isPrefixOf entry.1.toList with
      | [(_, letter)] => .ok (some letter)
      | _ => .error ⟨"invalid argument ".toList ++ singleQuoted value ++ " for '--sort'".toList, true⟩
    else .ok (if "dfghiMnRrV".toList.contains letter then some letter else none)
  let usual : KeyOptions := ⟨letters, arguments.has 'b', arguments.has 'b'⟩
  let given ← (arguments.options.filter (·.1 = 'k')).mapM fun entry => SortKey.read entry.2
  let given := given.map fun key => if key.options = ⟨[], false, false⟩ then { key with options := usual } else key
  let keys := if given = [] ∧ usual.isUsual = false then [⟨⟨0, 0⟩, none, usual⟩] else given
  if let some letters := keys.findSome? fun key => key.options.conflict? then
    throw ⟨"options ".toList ++ singleQuoted ('-' :: letters) ++ " are incompatible".toList, false⟩
  let separator ← readSeparator (arguments.value? 't')
  pure ⟨separator, keys, arguments.has 's' || arguments.has 'u', usual.has 'r'⟩

/-- Joins lines of texts: always the first of the lines in front comes next that no other one precedes. `fuel`
bounds the number of lines. -/
def mergedLines (order : LineOrder) : (fuel : Nat) → List (List Text) → List Text
  | 0, _ => []
  | fuel + 1, texts =>
      let fronts := texts.zipIdx.filterMap fun (lines, index) => lines.head?.map fun line => (line, index)
      match fronts with
      | [] => []
      | first :: others =>
          let (line, index) := others.foldl (fun best next =>
            if order.compare next.1 best.1 = .lt then next else best) first
          line :: mergedLines order fuel (texts.modify index (List.drop 1))

/-- The first line that does not stand in order, with its number. -/
def disorder? (order : LineOrder) (once : Bool) : (number : Nat) → List Text → Option (Nat × Text)
  | number, first :: second :: rest =>
      let found := order.compare first second
      if found = .gt ∨ (once = true ∧ found = .eq) then some (number + 1, second)
      else disorder? order once (number + 1) (second :: rest)
  | _, _ => none

/-- The lines of a text that end in a mark. -/
def linesBy (mark : Char) (text : Text) : List Text :=
  let segments := Text.segments mark text
  if segments.getLast? = some [] then segments.dropLast else segments

/-- The wording in which the program tells that a file cannot be opened or read. -/
def sortWording : Wording := fun name cause =>
  (if cause = .isDirectory then "sort: read failed: " else "sort: cannot read: ").toList
    ++ (if name = [] then ['-'] else name) ++ ": ".toList ++ cause.reason

/-- The lines of texts in their order, perhaps each of them only once. -/
def ordered (arguments : Arguments) (order : LineOrder) (texts : List (List Text)) : List Text :=
  let lines :=
    if arguments.has 'm' then mergedLines order (texts.flatten.length + 1) texts
    else texts.flatten.mergeSort fun left right => order.compare left right != .gt
  if arguments.has 'u' then (runs order.same lines).filterMap List.head? else lines

/-- The filter that tells whether lines stand in order. -/
def checkingFilter (arguments : Arguments) (order : LineOrder) (isQuiet : Bool) (mark : Char) :
    Except Misuse Filter := do
  if let _ :: extra :: _ := arguments.operands then
    let words := "extra operand ".toList ++ singleQuoted extra
    throw ⟨words ++ (if isQuiet then " not allowed with -C" else " not allowed with -c").toList, false⟩
  let found (given : List Given) : Option (Nat × Text) :=
    disorder? order (arguments.has 'u') 1 (linesBy mark (textsOf given).flatten)
  pure
    { answer := fun given => match complaints sortWording given, found given with
        | [], some (number, line) =>
            let name := arguments.operands.headD ['-']
            let place := "sort: ".toList ++ name ++ ':' :: Text.decimal number
            if isQuiet then [] else [.message (place ++ ": disorder: ".toList ++ line ++ [mark])]
        | complaints, _ => complaints
      files := arguments.operands
      status := fun given => max (failing (fun _ => 2) given) (if (found given).isSome then 1 else 0) }

/-- The program that puts lines in an order, perhaps each of them only once. -/
def sort (arguments : List Text) : Except Misuse Filter := do
  let arguments ← sortOptions.read (withKeys arguments)
  let order ← readOrder arguments
  let mark := if arguments.has 'z' then '\x00' else '\n'
  let check := arguments.options.reverse.find? fun entry => "cCΧ".toList.contains entry.1
  match check with
  | some (letter, value) =>
      let isQuiet := letter = 'C' || value = "quiet".toList || value = "silent".toList
      checkingFilter arguments order isQuiet mark
  | none =>
      let answer (given : List Given) : List Saying :=
        match complaints sortWording given with
        | complaint :: _ => [complaint]
        | [] =>
            let lines := ordered arguments order ((textsOf given).map (linesBy mark))
            [.output (lines.flatMap (· ++ [mark]))]
      pure
        { answer
          files := arguments.operands
          status := failing fun _ => 2
          goal := arguments.value? 'o'
          unopened := "open failed: "
          unopenedStatus := 2 }

/-- The options of the program that shows lines only once. -/
def uniqOptions : OptionTable where
  plain := ['c', 'd', 'u', 'i', 'D']
  valued := ['f', 's', 'w']
  names := [("count", 'c'), ("repeated", 'd'), ("unique", 'u'), ("ignore-case", 'i'), ("all-repeated", 'D'),
    ("skip-fields", 'f'), ("skip-chars", 's'), ("check-chars", 'w')]

/-- A line behind some of its fields. -/
def behindFields : (count : Nat) → Text → Text
  | 0, line => line
  | count + 1, line =>
      behindFields count ((line.dropWhile Arithmetic.isSpace).dropWhile fun c => !Arithmetic.isSpace c)

/-- How wide the column of numbers in front of lines is. -/
def countWidth : Nat := 7

/-- The program that shows runs of the same lines only once, or only some of the runs. -/
def uniq (arguments : List Text) : Except Misuse Filter := do
  let arguments ← uniqOptions.read arguments
  let number (letter : Char) (what : String) : Except Misuse (Option Nat) :=
    match arguments.value? letter with
    | none => .ok none
    | some value =>
        match count? value with
        | some count => .ok (some count)
        | none => .error ⟨value ++ ": invalid number of ".toList ++ what.toList, false⟩
  let fields := (← number 'f' "fields to skip").getD 0
  let skipped := (← number 's' "bytes to skip").getD 0
  let most ← number 'w' "bytes to compare"
  let key (line : Text) : Text :=
    let line := (behindFields fields line).drop skipped
    let line := match most with
      | some most => line.take most
      | none => line
    if arguments.has 'i' then line.map Char.toUpper else line
  let isShown (run : List Text) : Bool :=
    let isRepeated := decide (1 < run.length)
    (!(arguments.has 'd' || arguments.has 'D') || isRepeated) && (!arguments.has 'u' || !isRepeated)
  let shown (run : List Text) : List Text :=
    if arguments.has 'D' then run
    else
      let front := if arguments.has 'c' then inColumn countWidth run.length ++ [' '] else []
      (run.take 1).map (front ++ ·)
  let change (text : Text) : Text :=
    ofLines (((runs (fun left right => key left = key right) (linesOf text)).filter isShown).flatMap shown)
  let wording : Wording := fun name cause =>
    if cause = .isDirectory then openingWording "uniq" name cause else usualWording "uniq" name cause
  match arguments.operands with
  | _ :: _ :: extra :: _ => throw (.extraOperand extra)
  | files =>
      let filter := Filter.ofWhole wording change (files.take 1)
      pure { filter with goal := (files.drop 1).head?.filter (· ≠ ['-']) }

end SecureShell.Rehearsal.Shell.Filters
