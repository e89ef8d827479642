/-
Module: SecureShell.Rehearsal.Shell.Listing
Purpose: The program that lists names: first those of files, and then those in directories, each of which has a
  headline if there is anything else. What is listed has an order, and a form in which it is shown.
Main exports: Listed, ListForm, runList
-/
import SecureShell.Rehearsal.Shell.Entries

namespace SecureShell.Rehearsal.Shell

open FileSystem (Tree Place Node)

/-- The options of the program that lists names. Some of them have only a name: colours, the style of marks and
of quotes, and names that are hidden. -/
def listOptions : OptionTable where
  plain := ['a', 'A', 'b', 'B', 'c', 'C', 'd', 'f', 'F', 'g', 'G', 'h', 'H', 'i', 'k', 'l', 'L', 'm', 'n', 'N',
    'o', 'p', 'q', 'Q', 'r', 'R', 's', 'S', 't', 'u', 'U', 'v', 'x', 'X', 'Z', '1', '↯', '≣']
  valued := ['I', 'T', 'w', '⊘', '⚑', '⚐', '⌚']
  optional := ['☼']
  names := [("all", 'a'), ("almost-all", 'A'), ("escape", 'b'), ("ignore-backups", 'B'), ("directory", 'd'),
    ("classify", 'F'), ("file-type", '≣'), ("no-group", 'G'), ("human-readable", 'h'),
    ("dereference-command-line", 'H'), ("inode", 'i'), ("dereference", 'L'), ("literal", 'N'),
    ("numeric-uid-gid", 'n'), ("hide-control-chars", 'q'), ("quote-name", 'Q'), ("reverse", 'r'),
    ("recursive", 'R'), ("size", 's'), ("group-directories-first", '↯'), ("ignore", 'I'), ("tabsize", 'T'),
    ("width", 'w'), ("hide", '⊘'), ("indicator-style", '⚑'), ("sort", '⚐'), ("time", '⌚'), ("color", '☼')]

/-- A name that is listed, and what it stands for. -/
structure Listed where
  name : Text
  place : Place
  node : Node

/-- The forms in which names are listed: one in a line, with much about it, in columns that go down or
across, or behind one another. -/
inductive ListForm where
  | single
  | long
  | down
  | across
  | commas
deriving DecidableEq, Repr

/-- The form that options ask for. -/
def listForm (options : Arguments) : ListForm :=
  match options.lastOf? ['1', 'l', 'g', 'n', 'o', 'C', 'x', 'm'] with
  | some 'C' => .down
  | some 'x' => .across
  | some 'm' => .commas
  | some '1' => if ['l', 'g', 'n', 'o'].any options.has then .long else .single
  | some _ => .long
  | none => .single

/-- The kinds of marks behind names: none, for directories, for all kinds of files, and also for what can be
run. -/
def markStyle (options : Arguments) : Nat :=
  match options.lastOf? ['p', 'F', '≣', '⚑'] with
  | some 'p' => 1
  | some 'F' => 3
  | some '≣' => 2
  | some _ =>
      match String.ofList ((options.value? '⚑').getD []) with
      | "slash" => 1
      | "file-type" => 2
      | "classify" => 3
      | _ => 0
  | none => 0

/-- The mark behind the name of a file. -/
def markOf (shell : ShellState) (style : Nat) (place : Place) : Node → Text
  | .directory => if 1 ≤ style then ['/'] else []
  | .link _ => if 2 ≤ style then ['@'] else []
  | .socket => if 2 ≤ style then ['='] else []
  | .file _ => if 3 ≤ style && shell.isRunnable place then ['*'] else []

/-- A character as it is spelled in a name that is quoted or escaped. -/
def spelledChar (special : Text) (c : Char) : Text :=
  match [('\n', 'n'), ('\t', 't'), ('\r', 'r'), ('\x07', 'a'), ('\x08', 'b'), ('\x0c', 'f'),
      ('\x0b', 'v')].lookup c with
  | some letter => ['\\', letter]
  | none =>
      if special.contains c then ['\\', c]
      else if c.toNat < 32 ∨ 126 < c.toNat then
        let digits := Nat.toDigits 8 c.toNat
        '\\' :: List.replicate (3 - digits.length) '0' ++ digits
      else [c]

/-- A name as it is shown. -/
def shownName (options : Arguments) (name : Text) : Text :=
  match options.lastOf? ['Q', 'b', 'N'] with
  | some 'Q' => '"' :: name.flatMap (spelledChar ['"', '\\']) ++ ['"']
  | some 'b' => name.flatMap (spelledChar [' ', '\\'])
  | _ =>
      if options.has 'q' then name.map fun c => if c.toNat < 32 ∨ 126 < c.toNat then '?' else c else name

/-- How many bytes a file holds. -/
def sizeOf : Node → Nat
  | .file content => content.length
  | .directory => 4096
  | .link target => target.length
  | .socket => 0

/-- How many thousands of bytes a file takes. -/
def blocksOf : Node → Nat
  | .file content => (content.length + 4095) / 4096 * 4
  | .directory => 4
  | _ => 0

/-- A number of bytes as people read it. -/
def readableSize (size : Nat) : Text :=
  let rec scaled (size : Nat) : List Char → Text
    | [] => Text.decimal size
    | unit :: units =>
        if size < 10240 then
          let tenths := (size * 10 + 1023) / 1024
          if tenths < 100 then Text.decimal (tenths / 10) ++ '.' :: Text.decimal (tenths % 10) ++ [unit]
          else Text.decimal ((size + 1023) / 1024) ++ [unit]
        else if size < 1024 * 1024 then Text.decimal ((size + 1023) / 1024) ++ [unit]
        else scaled ((size + 1023) / 1024) units
  if size < 1024 then Text.decimal size else scaled size ['K', 'M', 'G']

/-- The rights to a file in ten characters, the first of which tells its kind. -/
def rightsColumn (node : Node) (mode : Nat) : Text :=
  let kind := match node with
    | .file _ => '-'
    | .directory => 'd'
    | .link _ => 'l'
    | .socket => 's'
  let has (bit : Nat) : Bool := Nat.land mode bit ≠ 0
  let group (shift special : Nat) (mark : Char) : Text :=
    let runs := has (0o1 * shift)
    [ if has (0o4 * shift) then 'r' else '-', if has (0o2 * shift) then 'w' else '-',
      if has special then (if runs then mark else mark.toUpper) else if runs then 'x' else '-' ]
  kind :: group 0o100 0o4000 's' ++ group 0o10 0o2000 's' ++ group 1 0o1000 't'

/-- How many names lead to a file or directory. -/
def nameCount (shell : ShellState) (listed : Listed) : Nat :=
  match listed.node with
  | .directory =>
      2 + (shell.tree.entries.filter fun entry =>
        entry.2 = .directory && entry.1.dropLast = listed.place && entry.1 ≠ []).length
  | _ => (shell.placesOf listed.place).length

/-- Texts in a column, to the right or to the left. -/
def inWidth (toLeft : Bool) (texts : List Text) : List Text :=
  let width := texts.foldl (fun width text => max width text.length) 0
  texts.map fun text =>
    let blanks := List.replicate (width - text.length) ' '
    if toLeft then text ++ blanks else blanks ++ text

/-- The time of a file. Times are not told apart here. -/
def timeColumn : Text := "Jan  1 00:00".toList

/-- The lines that tell much about names. -/
def longLines (shell : ShellState) (options : Arguments) (style : Nat) (listed : List Listed) : List Text :=
  let size (node : Node) : Text :=
    if options.has 'h' then readableSize (sizeOf node) else Text.decimal (sizeOf node)
  let user := if options.has 'n' then ['0'] else "root".toList
  let users := (if options.has 'g' then [] else [user]) ++ if options.has 'o' || options.has 'G' then [] else [user]
  let owner := users.flatMap (' ' :: ·)
  let rights := listed.map fun entry => rightsColumn entry.node (shell.mode entry.place)
  let counts := inWidth false (listed.map fun entry => Text.decimal (nameCount shell entry))
  let sizes := inWidth false (listed.map fun entry => size entry.node)
  let blocks := inWidth false (listed.map fun entry => Text.decimal (blocksOf entry.node))
  let names := listed.map fun entry =>
    shownName options entry.name ++ match entry.node with
      | .link target =>
          let mark := match shell.tree.resolve entry.place.dropLast true ⟨target⟩ with
            | .ok place => markOf shell style place ((shell.tree.node? place).getD .directory)
            | .error _ => []
          " -> ".toList ++ shownName options target ++ mark
      | node => markOf shell style entry.place node
  (((rights.zip counts).zip (sizes.zip blocks)).zip names).map fun (((rights, count), (size, blocks)), name) =>
    (if options.has 's' then blocks ++ [' '] else []) ++ rights ++ ' ' :: count ++ owner ++ ' ' :: size
      ++ ' ' :: timeColumn ++ ' ' :: name

/-- The blanks from one column of a line to another, with tabulators where they reach as far. `fuel` bounds their
number. -/
def indentation : (fuel : Nat) → (start goal : Nat) → Text
  | 0, _, _ => []
  | fuel + 1, start, goal =>
      if goal ≤ start then []
      else if (start + 1) / 8 < goal / 8 then '\t' :: indentation fuel (start + 8 - start % 8) goal
      else ' ' :: indentation fuel (start + 1) goal

/-- Names in rows of so many, or in columns that go down. -/
def tabulated (goesDown : Bool) (columns : Nat) (names : List Text) : List (List Text) :=
  let rows := (names.length + columns - 1) / columns
  (List.range rows).map fun row =>
    (List.range columns).filterMap fun column =>
      names[if goesDown then column * rows + row else row * columns + column]?

/-- The widths of columns: the widest name of each, and a gap behind all but the last. -/
def columnWidths (columns : Nat) (rows : List (List Text)) : List Nat :=
  (List.range columns).map fun column =>
    rows.foldl (fun width row => max width (match row[column]? with
      | some name => name.length + if column + 1 = columns then 0 else 2
      | none => 0)) 0

/-- Names in as many columns as fit into a line. -/
def inColumns (goesDown : Bool) (lineLength : Nat) (names : List Text) : Text :=
  let most := max 1 (min names.length (lineLength / 3))
  let fits (columns : Nat) : Bool :=
    let rows := (names.length + columns - 1) / columns
    let isFilled := !goesDown || (names.length + rows - 1) / rows = columns
    columns = 1 || (isFilled
      && (columnWidths columns (tabulated goesDown columns names)).foldl (· + ·) 0 < lineLength)
  let columns := (((List.range most).map (· + 1)).reverse.find? fits).getD 1
  let rows := tabulated goesDown columns names
  let widths := columnWidths columns rows
  rows.flatMap fun row =>
    let (text, _, _) := (row.zip widths).foldl (fun (text, position, start) (name, width) =>
      (text ++ indentation (start - position) position start ++ name, start + name.length, start + width))
      (([] : Text), 0, 0)
    text ++ ['\n']

/-- Names behind one another, in lines that are not too long. -/
def withCommas (lineLength : Nat) (names : List Text) : Text :=
  let (text, _) := names.foldl (fun (text, position) name =>
    if text = [] then (name, name.length)
    else if position + name.length + 2 < lineLength then
      (text ++ [',', ' '] ++ name, position + name.length + 2)
    else (text ++ [',', '\n'] ++ name, name.length)) (([] : Text), 0)
  if names.isEmpty then [] else text ++ ['\n']

/-- The length of the lines in which names stand together. -/
def lineLength (shell : ShellState) (options : Arguments) : Nat :=
  match (options.value? 'w').or (shell.value? "COLUMNS") with
  | some digits => match count? digits with
      | some 0 => 1000000
      | some width => width
      | none => 80
  | none => 80

/-- What is shown of names in the form that is asked for. -/
def shownList (shell : ShellState) (options : Arguments) (listed : List Listed) : Text :=
  let style := markStyle options
  let names := listed.map fun entry =>
    (if options.has 's' then Text.decimal (blocksOf entry.node) ++ [' '] else [])
      ++ shownName options entry.name ++ markOf shell style entry.place entry.node
  match listForm options with
  | .single => Filters.ofLines names
  | .long => Filters.ofLines (longLines shell options style listed)
  | .down => if names.isEmpty then [] else inColumns true (lineLength shell options) names
  | .across => if names.isEmpty then [] else inColumns false (lineLength shell options) names
  | .commas => withCommas (lineLength shell options) names

/-- The ending of a name from its last dot on. -/
def endingOf (name : Text) : Text :=
  if '.' ∈ name then '.' :: (name.reverse.takeWhile (· ≠ '.')).reverse else []

/-- What is listed in the order that options ask for. Otherwise it is that of the names. -/
def ordered (shell : ShellState) (options : Arguments) (listed : List Listed) : List Listed :=
  let byName := listed.mergeSort fun left right => !decide (right.name < left.name)
  let sort := match options.lastOf? ['S', 't', 'X', 'U', 'f', 'v', '⚐'] with
    | some '⚐' =>
        match String.ofList ((options.value? '⚐').getD []) with
        | "size" => some 'S'
        | "time" => some 't'
        | "extension" => some 'X'
        | "none" => some 'U'
        | _ => none
    | letter => letter
  let found := match sort with
    | some 'S' => byName.mergeSort fun left right => sizeOf right.node ≤ sizeOf left.node
    | some 't' => byName.mergeSort fun left right =>
        decide ((shell.detailsOf right.place).time ≤ (shell.detailsOf left.place).time)
    | some 'X' => byName.mergeSort fun left right => !decide (endingOf right.name < endingOf left.name)
    | some 'U' => listed
    | some 'f' => listed
    | _ => byName
  let found := if options.has '↯' then
      found.filter (fun entry => entry.node = .directory) ++ found.filter fun entry => entry.node ≠ .directory
    else found
  if options.has 'r' then found.reverse else found

/-- Whether a name in a directory is listed. -/
def isListed (options : Arguments) (name : Text) : Bool :=
  let showsAll := options.has 'a' || options.has 'f'
  let isStoodFor (entry : Char × Text) : Bool :=
    (Pattern.ofCells (entry.2.map (⟨·, false⟩))).matches name
  let isHidden := options.options.any fun entry =>
    (entry.1 = 'I' || (entry.1 = '⊘' && !showsAll && !options.has 'A')) && isStoodFor entry
  (showsAll || options.has 'A' || name.head? ≠ some '.') && !isHidden
    && !(options.has 'B' && name.getLast? = some '~')

/-- The names in a directory that are listed. -/
def listedIn (shell : ShellState) (options : Arguments) (place : Place) : List Listed :=
  let near : List Listed := if options.has 'a' || options.has 'f' then
      [⟨['.'], place, .directory⟩, ⟨['.', '.'], place.dropLast, .directory⟩]
    else []
  let names := (childNames shell.tree place).filter (isListed options)
  let known := names.filterMap fun name => (shell.tree.node? (place ++ [name])).map fun node =>
    Listed.mk name (place ++ [name]) node
  near ++ known

/-- The directories in directories, each behind the one in which it is, with their paths. `fuel` bounds how deep
they stand in one another. -/
def withInner (shell : ShellState) (options : Arguments) : (fuel : Nat) → Text × Place → List (Text × Place)
  | 0, _ => []
  | fuel + 1, (path, place) =>
      let names := (ordered shell options (listedIn shell options place)).filter fun entry =>
        entry.node = .directory && entry.name ≠ ['.'] && entry.name ≠ ['.', '.']
      let path' := if endsInSlash path then path else path ++ ['/']
      (path, place) :: names.flatMap fun entry => withInner shell options fuel (path' ++ entry.name, entry.place)

/-- What an operand stands for, or why it cannot be listed. A link to a directory is followed unless much is
told about it. -/
def listedFor (shell : ShellState) (options : Arguments) (name : Text) : Except SystemError Listed :=
  let keepsLinks := options.has 'd' || options.has 'F' || listForm options = .long
  let known (place : Place) : Listed := ⟨name, place, (shell.tree.node? place).getD .directory⟩
  match shell.resolve name with
  | .ok place =>
      if options.has 'L' || options.has 'H' then .ok (known place)
      else if !keepsLinks && shell.tree.node? place = some .directory then .ok (known place)
      else (shell.placeOfName name).map known
  | .error .notFound =>
      if options.has 'L' then .error .notFound else (shell.placeOfName name).map known
  | .error cause => .error cause

/-- The program that lists names. -/
def runList (called : Text) (arguments : List Text) : Run Unit :=
  understood called 2 (listOptions.read arguments) fun options => do
    let shell ← get
    let wanted := if options.operands.isEmpty then [['.']] else options.operands
    let found := wanted.map fun name => (name, listedFor shell options name)
    found.forM fun (name, found) => match found with
      | .error cause => complainOf called ("cannot access ".toList ++ singleQuoted name) cause 2
      | .ok _ => pure ()
    let isDirectory (entry : Listed) : Bool := !options.has 'd' && entry.node = .directory
    let known := found.filterMap fun entry => entry.2.toOption
    let files := ordered shell options (known.filter fun entry => !isDirectory entry)
    write (shownList shell options files)
    let outer := (ordered shell options (known.filter isDirectory)).map fun entry => (entry.name, entry.place)
    let directories := if options.has 'R' then
        outer.flatMap (withInner shell options (shell.tree.entries.length + 1))
      else outer
    let hasHeadlines := decide (1 < wanted.length) || options.has 'R'
    directories.zipIdx.forM fun ((name, place), index) => do
      if hasHeadlines then
        write ((if index = 0 && files.isEmpty then [] else ['\n']) ++ shownName options name ++ [':', '\n'])
      let listed := ordered shell options (listedIn shell options place)
      if listForm options = .long || options.has 's' then
        let blocks := listed.foldl (fun total entry => total + blocksOf entry.node) 0
        write ("total ".toList ++ (if options.has 'h' then readableSize (blocks * 1024) else Text.decimal blocks)
          ++ ['\n'])
      write (shownList shell options listed)
    finish (if found.all fun entry => entry.2.isOk then 0 else 2)

end SecureShell.Rehearsal.Shell
