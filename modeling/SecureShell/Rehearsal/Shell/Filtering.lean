/-
Module: SecureShell.Rehearsal.Shell.Filtering
Purpose: How filters are run: they are given the files that they ask for, or the input, and say what they have
  to say. The program that looks for lines is one of them.
Main exports: runFilter, runSearch
-/
import SecureShell.Rehearsal.Shell.FileConditions
import SecureShell.Rehearsal.Shell.Relaying
import SecureShell.Rehearsal.Shell.Search

namespace SecureShell.Rehearsal.Shell

/-- What a program is given that reads files, or the input if there are none. -/
def givenTo (demand : Filters.Demand) (files : List Text) : Run (List Filters.Given) := do
  match files with
  | [] => do
      let origin := (← get).inputOrigin
      pure [⟨[], origin, ← readInput demand⟩]
  | files => files.mapM (readGiven demand)

/-- Says things one after the other, where output goes into a stream. -/
def sayInto (stream : Stream) (sayings : List Filters.Saying) : Run Unit :=
  sayings.forM fun saying => match saying with
    | .output text => writeTo (some stream) text
    | .message text => tell text

/-- Runs a filter that a program has made of its arguments, or refuses them with a status. -/
def runFilter (called : Text) (status : Nat)
    (filter : Except Misuse Filters.Filter) : Run Unit :=
  understood called status filter fun filter => do
    let given ← givenTo filter.demand filter.files
    let isWhole := given.all (·.text.isOk)
    match if isWhole then filter.goal else none with
    | none => do
        say (filter.answer given)
        if filter.isEndless then blocked
        finish (filter.status given)
    | some goal =>
        match ← openForWriting .anyway goal with
        | .ok stream => do
            sayInto stream (filter.answer given)
            finish (filter.status given)
        | .error cause => complainOf called (filter.unopened.toList ++ goal) cause filter.unopenedStatus

/-- Whether a name fits one of the patterns that are the values of an option. -/
def fitsAny (found : Arguments) (letter : Char) (name : Text) : Bool :=
  found.options.any fun entry =>
    entry.1 = letter && (Pattern.ofCells (entry.2.map fun c => ⟨c, false⟩)).matches name

/-- Whether a file is searched by its name. -/
def isChosen (found : Arguments) (name : Text) : Bool :=
  let last := ((Text.segments '/' name).filter (· ≠ [])).getLast?.getD name
  !fitsAny found 'Ε' last && (!found.has 'ν' || fitsAny found 'ν' last)

/-- The files of a directory at any depth, in the order of their names. Links are followed only if this is asked
for. `fuel` bounds the depth. -/
def filesWithin (shell : ShellState) (found : Arguments) : (fuel : Nat) → (name : Text) → List Text
  | 0, _ => []
  | fuel + 1, name =>
      match shell.resolve (if name = [] then ['.'] else name) with
      | .error _ => []
      | .ok place =>
          (inOrder (childNames shell.tree place)).flatMap fun entry =>
            let path := if name = [] ∨ name.getLast? = some '/' then name ++ entry else name ++ '/' :: entry
            let isInner := (shell.resolve path).toOption.any fun inner => shell.tree.node? inner = some .directory
            if shell.isLink path && !found.has 'R' then []
            else if isInner then if fitsAny found 'Δ' entry then [] else filesWithin shell found fuel path
            else if isChosen found path then [path]
            else []

/-- Whether directories among the files are searched, and whether they are passed over. -/
def directoryChoice (found : Arguments) : Bool × Bool :=
  match found.lastOf? ['r', 'R', 'd'], found.value? 'd' with
  | some 'd', some choice => (choice = "recurse".toList, choice = "skip".toList)
  | some _, _ => (true, false)
  | none, _ => (false, false)

/-- The files that are searched, and whether their names are shown if nothing else is asked for. -/
def searchedFiles (shell : ShellState) (found : Arguments) (files : List Text) : List Text × Bool :=
  let (isDeep, passes) := directoryChoice found
  let isDirectory (name : Text) : Bool :=
    name ≠ ['-'] && (shell.resolve name).toOption.any fun place => shell.tree.node? place = some .directory
  let fuel := shell.tree.entries.length + 1
  if isDeep && files = [] then (filesWithin shell found fuel [], true)
  else
    let searched := files.flatMap fun name =>
      if isDirectory name then
        if isDeep then filesWithin shell found fuel name else if passes then [] else [name]
      else if name = ['-'] || isChosen found name then [name]
      else []
    (searched, decide (1 < files.length) || (isDeep && files.any isDirectory))

/-- Searches texts one after the other, and tells whether a line is wanted in one of them and whether one cannot be
read. -/
def searchAll (order : SearchOrder) (isNamed : Bool) : (hasShown : Bool) → List Text → Run (Bool × Bool)
  | _, [] => pure (false, false)
  | hasShown, file :: rest => do
      let given ← readGiven order.demand file
      let name := if file = ['-'] then order.options.value? 'λ' |>.getD "(standard input)".toList else file
      match given.text with
      | .ok text =>
          let (sayings, isFound) := order.reported isNamed hasShown name text
          say sayings
          if isFound && order.has 'q' then pure (true, false)
          else
            let (others, fails) ← searchAll order isNamed (hasShown || isFound) rest
            pure (isFound || others, fails)
      | .error cause => do
          unless order.has 's' do say [Filters.complaintOf (Filters.usualWording "grep") given cause]
          let (others, _) ← searchAll order isNamed hasShown rest
          pure (others, !(others && order.has 'q'))

/-- Searches texts as options ask, after the texts have been read that hold expressions. -/
def searchAs (letter : Option Char) (found : Arguments) (read : List (Text × Text)) : Run Unit := do
  match SearchOrder.wanted? found fun file => (read.lookup file).getD [] with
  | none => do
      tell "Usage: grep [OPTION]... PATTERNS [FILE]...\nTry 'grep --help' for more information.\n".toList
      finish 2
  | some (texts, files) =>
      understood "grep".toList 2 (SearchOrder.ofArguments letter found texts files) fun order => do
        let (files, isUsual) := searchedFiles (← get) found files
        let isNamed := match found.lastOf? ['h', 'H'] with
          | some letter => letter = 'H'
          | none => isUsual
        let hasNone := files = [] && order.files = [] && !(directoryChoice found).1
        if order.isVain then return ← finish 1
        let (isFound, fails) ← searchAll order isNamed false (if hasNone then [['-']] else files)
        finish (if fails then 2 else if isFound then 0 else 1)

/-- Runs a search for lines. -/
def runSearch (letter : Option Char) (called : Text) (arguments : List Text) : Run Unit :=
  understood called 2 (SearchOrder.readArguments arguments) fun found => do
    let read ← (SearchOrder.expressionFiles found).mapM fun file => readGiven {} file
    let failed := read.findSome? fun given => match given.text with
      | .ok _ => none
      | .error cause => some (given.name, cause)
    match failed with
    | some (name, cause) => complainOf called name cause 2
    | none => searchAs letter found (read.map fun given => (given.name, given.text.toOption.getD []))

end SecureShell.Rehearsal.Shell
