/-
Module: SecureShell.Rehearsal.Shell.Entries
Purpose: Programs that make entries of directories, change what is known about them, and remove them.
Main exports: onEach, runMkdir, runTouch, runRm, runRmdir, runChmod
-/
import SecureShell.Rehearsal.Shell.FileConditions
import SecureShell.Rehearsal.Shell.Rights

namespace SecureShell.Rehearsal.Shell

open FileSystem (Tree Place Node)

/-- Does something with each of some texts, and tells in the status whether all could be done. -/
def onEach (texts : List Text) (action : Text → Run Bool) : Run Unit := do
  let done ← texts.mapM action
  finish (if done.all id then 0 else 1)

/-- Tells what a program has to say about a file. It could not be done. -/
def failing (called words : Text) (cause : SystemError) : Run Bool := do
  complainOf called words cause 1
  pure false

/-- Says in the output what a program has done. -/
def announce (called words : Text) (quoted : Text) : Run Unit :=
  write (called ++ words ++ singleQuoted quoted ++ ['\n'])

/-- A path without slashes at its end. -/
def withoutSlashes (name : Text) : Text :=
  (name.reverse.dropWhile (· = '/')).reverse

/-- Whether a path ends in a slash. -/
def endsInSlash (name : Text) : Bool :=
  name.getLast? = some '/'

/-- The place of a name, of which a link at the end is not followed, or why there is none. -/
def ShellState.placeOfName (shell : ShellState) (name : Text) : Except SystemError Place :=
  shell.tree.resolve shell.place false ⟨name⟩

/-- The last part of a path, but for slashes at its end. -/
def lastPart (name : Text) : Text :=
  (Text.segments '/' (withoutSlashes name)).getLastD []

/-- The options of the program that makes directories. -/
def directoryOptions : OptionTable where
  plain := ['p', 'v', 'Z']
  valued := ['m']
  names := [("parents", 'p'), ("verbose", 'v'), ("mode", 'm')]

/-- The place where a new directory of a name can be made. -/
def ShellState.placeForDirectory (shell : ShellState) (name : Text) : Except SystemError Place :=
  let stripped := withoutSlashes name
  if name ≠ [] ∧ (stripped = [] ∨ shell.isTaken stripped = true) then .error .exists
  else shell.newPlace stripped

/-- Makes a directory. -/
def makeDirectory (called : Text) (tells : Bool) (mode : Option Nat) (name : Text) : Run Bool := do
  let shell ← get
  match shell.placeForDirectory name with
  | .error cause => failing called ("cannot create directory ".toList ++ singleQuoted name) cause
  | .ok place => do
      let made := shell.withNode place .directory
      set (match mode with
        | some mode => made.withMode place mode
        | none => made)
      if tells then announce called ": created directory ".toList name
      pure true

/-- The beginnings of a path that end in front of a slash, the shortest first, and the path. -/
def leadingPaths (name : Text) : List Text :=
  let parts := Text.segments '/' name
  let paths := (List.range parts.length).map fun index => List.intercalate ['/'] (parts.take (index + 1))
  paths.filter fun path => path ≠ [] ∧ endsInSlash path = false

/-- Makes a directory and those above it, as far as they are missing. -/
def makeDirectories (called : Text) (tells : Bool) (mode : Option Nat) (name : Text) :
    List Text → Run Bool
  | [] => do
      if name = [] then makeDirectory called tells mode name else pure true
  | path :: rest => do
      let shell ← get
      match shell.node? path with
      | some .directory => makeDirectories called tells mode name rest
      | _ =>
          if shell.isTaken path then
            let isInside := rest ≠ []
            failing called ("cannot create directory ".toList ++ singleQuoted path)
              (if isInside then .notDirectory else .exists)
          else
            if ← makeDirectory called tells (if rest = [] then mode else none) path then
              makeDirectories called tells mode name rest
            else pure false

/-- The program that makes directories. -/
def runMkdir (called : Text) (arguments : List Text) : Run Unit :=
  understood called 1 (directoryOptions.read arguments) fun options => do
    let shell ← get
    let mode := (options.value? 'm').map fun change => Rights.changed? change shell.mask true 0o777
    match mode with
    | some none => refuse called 1 (.plain "invalid mode " ((options.value? 'm').getD []))
    | mode =>
        let mode := mode.bind id
        if options.operands.isEmpty then refuse called 1 .missingOperand
        else if options.has 'p' then
          onEach options.operands fun name =>
            makeDirectories called (options.has 'v') mode name (leadingPaths (withoutSlashes name))
        else onEach options.operands (makeDirectory called (options.has 'v') mode)

/-- The options of the program that changes times. -/
def timeOptions : OptionTable where
  plain := ['a', 'c', 'f', 'h', 'm']
  valued := ['d', 'r', 't', '⏲']
  names := [("no-create", 'c'), ("date", 'd'), ("no-dereference", 'h'), ("reference", 'r'), ("time", '⏲')]

/-- The date from which times before and after the script are told apart. -/
def turningDate : Int := 20260101000000

/-- The time that the digits of a date stand for: month, day, hour and minute, with the year in front and the
seconds behind a point if they are given. -/
def dateTime? (text : Text) : Option Int := do
  let digits := text.takeWhile Char.isDigit
  let seconds ← match text.drop digits.length with
    | [] => some 0
    | ['.', ten, one] => count? [ten, one]
    | _ => none
  let number ← count? digits
  let year ← match digits.length with
    | 8 => some 2026
    | 10 =>
        let short := number / 100000000
        some (if short < 69 then 2000 + short else 1900 + short)
    | 12 => some (number / 100000000)
    | _ => none
  pure (((year * 10000000000 + number % 100000000 * 100 + seconds : Nat) : Int) - turningDate)

/-- The time that a date in writing stands for: digits with a year in front count, any other is past. -/
def writtenTime (text : Text) : Int :=
  let digits := text.filter Char.isDigit
  if 8 ≤ digits.length ∧ (text.take 4).all Char.isDigit = true then
    ((Nat.ofDigitChars 10 ((digits ++ List.replicate 6 '0').take 14) 0 : Nat) : Int) - turningDate
  else -1

/-- Changes the time of a file, which is made unless it is there. -/
def touch (called : Text) (options : Arguments) (time : Option Int) (name : Text) : Run Bool := do
  let shell ← get
  let complaint (cause : SystemError) : Run Bool :=
    failing called ("cannot touch ".toList ++ singleQuoted name) cause
  match if options.has 'h' then shell.placeOfName name else shell.resolve name with
  | .ok place => do
      set (shell.withDetails place { shell.detailsOf place with time := time.getD shell.now })
      pure true
  | .error cause =>
      if (options.has 'c' || options.has 'h') && cause = .notFound then pure true
      else if endsInSlash name && cause = .notFound then
        failing called ("setting times of ".toList ++ singleQuoted name) cause
      else
        match shell.placeFor name with
        | .error cause => complaint cause
        | .ok place => do
            let made := shell.withNode place (.file [])
            set (match time with
              | some time => made.withDetails place { made.detailsOf place with time }
              | none => made)
            pure true

/-- The program that changes times. -/
def runTouch (called : Text) (arguments : List Text) : Run Unit :=
  understood called 1 (timeOptions.read arguments) fun options => do
    let shell ← get
    let time : Except (Run Unit) (Option Int) :=
      match options.value? 'r', options.value? 't', options.value? 'd' with
      | some name, _, _ =>
          match shell.resolve name with
          | .ok place => .ok (some (shell.detailsOf place).time)
          | .error cause =>
              .error (complainOf called ("failed to get attributes of ".toList ++ singleQuoted name) cause 1)
      | none, some text, _ =>
          match dateTime? text with
          | some time => .ok (some time)
          | none => .error (refuse called 1 (.plain "invalid date format " text))
      | none, none, text => .ok (text.map writtenTime)
    match time with
    | .error refusal => refusal
    | .ok time =>
        if options.operands.isEmpty then refuse called 1 ⟨"missing file operand".toList, true⟩
        else onEach options.operands (touch called options time)

/-- The options of the program that removes entries. -/
def removalOptions : OptionTable where
  plain := ['d', 'f', 'i', 'I', 'r', 'R', 'v', '↯']
  valued := []
  optional := ['⁇']
  names := [("dir", 'd'), ("force", 'f'), ("recursive", 'r'), ("verbose", 'v'), ("interactive", '⁇'),
    ("no-preserve-root", '↯'), ("preserve-root", '↯'), ("one-file-system", '↯')]

/-- What a node is called in a question. -/
def nodeKind : Node → Text
  | .file content => if content = [] then "regular empty file".toList else "regular file".toList
  | .directory => "directory".toList
  | .link _ => "symbolic link".toList
  | .socket => "socket".toList

/-- Asks a question that is answered by a line of the input. -/
def confirms (question : Text) : Run Bool := do
  tell question
  let text ← match ← liveText with
    | some text => if '\n' ∈ text then pure text else blocked
    | none => heldText
  leaveInput ((text.dropWhile (· ≠ '\n')).drop 1)
  pure (text.head?.any fun c => c = 'y' || c = 'Y')

/-- Whether a name with a slash at its end is that of a link, which is not followed then. -/
def ShellState.isLinkWithSlash (shell : ShellState) (name : Text) : Bool :=
  endsInSlash name && shell.isLink (withoutSlashes name)

/-- The names of what is below a place, the deepest first, by the path that leads there. -/
def ShellState.pathsBelow (shell : ShellState) (path : Text) (place : Place) : List (Text × Node) :=
  (shell.tree.entries.filterMap fun (found, node) =>
    if place.isPrefixOf found ∧ place ≠ found then
      some (List.intercalate ['/'] (withoutSlashes path :: found.drop place.length), node)
    else none).reverse

/-- Removes what a name stands for. -/
def remove (called : Text) (options : Arguments) (name : Text) : Run Bool := do
  let shell ← get
  let recursive := options.has 'r' || options.has 'R'
  let complaint (cause : SystemError) : Run Bool :=
    failing called ("cannot remove ".toList ++ singleQuoted name) cause
  match shell.placeOfName name with
  | .error cause =>
      if options.has 'f' && isAbsence cause then pure true else complaint cause
  | .ok place =>
      if shell.isLinkWithSlash name then complaint .notDirectory
      else
        let node := (shell.tree.node? place).getD .directory
        let isEmpty := node = .directory && childNames shell.tree place = []
        let asks := options.lastOf? ['f', 'i'] = some 'i'
        if node = .directory && !recursive && !(options.has 'd' && isEmpty) then
          complaint (if options.has 'd' then .notEmpty else .isDirectory)
        else if node = .directory && place = [] then
          tell (called ++ ": it is dangerous to operate recursively on '/'\n".toList ++ called
            ++ ": use --no-preserve-root to override this failsafe\n".toList)
          pure false
        else if [['.'], ['.', '.']].contains (lastPart name) then
          tell (called ++ ": refusing to remove '.' or '..' directory: skipping ".toList ++ singleQuoted name
            ++ ['\n'])
          pure false
        else
          let question := called ++ ": remove ".toList ++ nodeKind node ++ ' ' :: singleQuoted name ++ "? ".toList
          let agreed ← if asks then confirms question else pure true
          if !agreed then return true
          let told (entry : Text × Node) : Text :=
            (if entry.2 = .directory then "removed directory " else "removed ").toList ++ singleQuoted entry.1
              ++ ['\n']
          if options.has 'v' then
            write ((shell.pathsBelow name place ++ [(name, node)]).flatMap told)
          modify (·.withoutNode place)
          pure true

/-- The program that removes entries. -/
def runRm (called : Text) (arguments : List Text) : Run Unit :=
  understood called 1 (removalOptions.read arguments) fun options =>
    if options.operands.isEmpty && !options.has 'f' then refuse called 1 .missingOperand
    else onEach options.operands (remove called options)

/-- The options of the program that removes empty directories. -/
def emptyOptions : OptionTable where
  plain := ['p', 'v', '∅']
  valued := []
  names := [("parents", 'p'), ("verbose", 'v'), ("ignore-fail-on-non-empty", '∅')]

/-- Why an empty directory of a name cannot be removed, or its place. -/
def ShellState.emptyDirectory (shell : ShellState) (name : Text) : Except SystemError Place := do
  let place ← shell.placeOfName name
  if shell.isLinkWithSlash name then throw (.reported "Symbolic link not followed".toList)
  else if shell.tree.node? place ≠ some .directory then throw .notDirectory
  else if lastPart name = ['.'] then throw .invalidArgument
  else if place = [] then throw (.reported "Device or resource busy".toList)
  else if childNames shell.tree place ≠ [] ∨ lastPart name = ['.', '.'] then throw .notEmpty
  else pure place

/-- Removes an empty directory of each of some names, as long as it can be done. -/
def removeDirectories (called : Text) (options : Arguments) (words : String) : List Text → Run Bool
  | [] => pure true
  | name :: rest => do
      if options.has 'v' then announce called ": removing directory, ".toList name
      let shell ← get
      match shell.emptyDirectory name with
      | .ok place => do
          set (shell.withoutNode place)
          removeDirectories called options "failed to remove directory " rest
      | .error .notEmpty =>
          if options.has '∅' then pure true
          else failing called (words.toList ++ singleQuoted name) .notEmpty
      | .error cause => failing called (words.toList ++ singleQuoted name) cause

/-- The program that removes empty directories. -/
def runRmdir (called : Text) (arguments : List Text) : Run Unit :=
  understood called 1 (emptyOptions.read arguments) fun options =>
    if options.operands.isEmpty then refuse called 1 .missingOperand
    else onEach options.operands fun name =>
      let above := if options.has 'p' then (leadingPaths (withoutSlashes name)).dropLast.reverse else []
      removeDirectories called options "failed to remove " (name :: above)

/-- The options of the program that changes rights. -/
def rightsOptions : OptionTable where
  plain := ['R', 'c', 'f', 'v', '↯']
  valued := ['⌘']
  names := [("recursive", 'R'), ("changes", 'c'), ("silent", 'f'), ("quiet", 'f'), ("verbose", 'v'),
    ("no-preserve-root", '↯'), ("preserve-root", '↯'), ("reference", '⌘')]

/-- Whether an argument that begins with a dash is a change of rights and no option. -/
def isChangeOfRights : Text → Bool
  | '-' :: c :: _ => "rwxXstugoa,+=01234567".toList.contains c
  | _ => false

/-- Changes the rights to what a name stands for. -/
def changeRights (called : Text) (options : Arguments) (change name : Text) : Run Bool := do
  let shell ← get
  match shell.resolve name with
  | .error cause =>
      if options.has 'f' then pure false
      else if cause = .notFound ∧ shell.isTaken name = true then
        tell (called ++ ": cannot operate on dangling symlink ".toList ++ singleQuoted name ++ ['\n'])
        pure false
      else failing called ("cannot access ".toList ++ singleQuoted name) cause
  | .ok place =>
      let places := if options.has 'R' then
          place :: (shell.tree.entries.map (·.1)).filter fun found => place.isPrefixOf found && place ≠ found
        else [place]
      let changed (shell : ShellState) (place : Place) : ShellState :=
        match shell.tree.node? place with
        | some (.link _) => shell
        | node =>
            match Rights.changed? change shell.mask (node = some .directory) (shell.mode place) with
            | some mode => shell.withMode place mode
            | none => shell
      set (places.foldl changed shell)
      pure true

/-- The program that changes rights. -/
def runChmod (called : Text) (arguments : List Text) : Run Unit :=
  let (changes, others) := arguments.partition isChangeOfRights
  understood called 1 (rightsOptions.read others) fun options => do
    let shell ← get
    let (change, names) := match changes, options.value? '⌘', options.operands with
      | [], none, change :: names => (some change, names)
      | [], none, [] => (none, [])
      | [], some name, names =>
          let mode := ((shell.resolve name).toOption.map shell.mode).getD 0
          (some (Nat.toDigits 8 mode), names)
      | changes, _, names => (some (List.intercalate [','] changes), names)
    match change, names with
    | none, _ => refuse called 1 .missingOperand
    | some change, [] => refuse called 1 (.missingOperandAfter change)
    | some change, names =>
        if (Rights.changed? change shell.mask false 0).isNone then
          refuse called 1 ⟨"invalid mode: ".toList ++ singleQuoted change, true⟩
        else onEach names (changeRights called options change)

end SecureShell.Rehearsal.Shell
