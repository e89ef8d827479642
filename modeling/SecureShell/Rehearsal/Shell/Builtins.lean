/-
Module: SecureShell.Rehearsal.Shell.Builtins
Purpose: Commands that are part of the shell: they change its parameters, its arguments, its aliases and its
  choices, leave loops, functions and the shell itself, and run scripts in it. Commands that belong to the
  language itself end the shell by a mistake, all others only fail.
Main exports: builtins, builtin?, isSpecial
-/
import SecureShell.Rehearsal.Shell.Formats
import SecureShell.Rehearsal.Shell.Navigation
import SecureShell.Rehearsal.Shell.NextOption
import SecureShell.Rehearsal.Shell.Traps

namespace SecureShell.Rehearsal.Shell

/-- The number that an argument stands for, or the usual one if there is no argument. -/
def numberOr (usual : Nat) (arguments : List Text) : Run Nat := do
  match arguments with
  | [] => pure usual
  | argument :: _ =>
      match count? argument with
      | some number => if number < 2147483648 then pure number else mistake (.illegalNumber argument)
      | none => mistake (.illegalNumber argument)

/-- Leaves the shell. -/
def exit (arguments : List Text) : Run Unit := do
  let status ← numberOr (← get).status arguments
  throw (.exited (status % 256))

/-- Leaves a function or a script that is run within another one. -/
def leave (arguments : List Text) : Run Unit := do
  let status ← numberOr (← get).status arguments
  throw (.returned status)

/-- Leaves loops, or goes on with their next round. -/
def leaveLoops (stop : Nat → Stop) (arguments : List Text) : Run Unit := do
  let loops := (← get).loops
  let count ← numberOr 1 arguments
  if count = 0 then mistake (.illegalNumber (arguments.headD []))
  else if loops = 0 then finish 0
  else throw (stop (min count loops))

/-- Drops arguments in front. -/
def shiftArguments (arguments : List Text) : Run Unit := do
  let shell ← get
  let count ← numberOr 1 arguments
  if count ≤ shell.arguments.length then
    set { shell with arguments := shell.arguments.drop count, status := 0 }
    modify (·.readingFrom 1)
  else mistake .tooFewArguments

/-- The parameters of a shell in order, each in a line behind a word, with its value if it has one. -/
def parameterLines (word : Text) (parameters : List (Text × Parameter)) : Text :=
  (inOrder (parameters.map fun (name, parameter) => match parameter.value with
    | some value => word ++ name ++ '=' :: inQuotes value ++ ['\n']
    | none => if word = [] then [] else word ++ name ++ ['\n'])).flatten

/-- Writes the parameters that satisfy a condition. -/
def tellParameters (word : String) (condition : Parameter → Bool) : Run Unit := do
  let shell ← get
  write (parameterLines word.toList (shell.parameters.filter fun entry => condition entry.2))
  finish 0

/-- The choices in the order in which they are listed. -/
def inListOrder : List (Char × String) :=
  Options.known.drop 1 |>.reverse |>.append (Options.known.take 1)

/-- Writes the choices by their names. -/
def tellChoices (shell : ShellState) : Text :=
  let column (name : String) : Text := name.toList ++ List.replicate (16 - name.length) ' '
  "Current option settings\n".toList
    ++ (inListOrder.flatMap fun (letter, name) =>
      column name ++ (if shell.options.has letter then "on\n" else "off\n").toList)
    ++ Options.idleNames.flatMap fun name => column name ++ "off\n".toList

/-- Writes the commands that make the choices. -/
def tellChoiceCommands (shell : ShellState) : Text :=
  (inListOrder.flatMap fun (letter, name) =>
      (if shell.options.has letter then "set -o " else "set +o ").toList ++ name.toList ++ ['\n'])
    ++ Options.idleNames.flatMap fun name => "set +o ".toList ++ name.toList ++ ['\n']

/-- Sets choices and arguments. -/
def configure (arguments : List Text) : Run Unit := do
  let shell ← get
  if arguments = [] then tellParameters "" fun _ => true
  else
    match shell.options.read false arguments with
    | .error fault => mistake (.illegalOption fault)
    | .ok ⟨options, _, rest⟩ =>
        set { shell with options }
        match rest with
        | some arguments =>
            modify fun shell => { shell with arguments }
            modify (·.readingFrom 1)
        | none => pure ()
        if arguments.getLast? = some "-o".toList then write (tellChoices (← get))
        if arguments.getLast? = some "+o".toList then write (tellChoiceCommands (← get))
        finish 0

/-- Marks parameters, which may be set at the same time. -/
def markAll (word : String) (isMarked : Parameter → Bool) (mark : Parameter → Parameter)
    (arguments : List Text) : Run Unit := do
  let options ← ownOptions ['p'] [] arguments
  let names := options.operands
  if names = [] ∨ options.has 'p' = true then tellParameters word isMarked
  else
    names.forM fun argument => do
      let (name, value) := match assigned? argument with
        | some (name, value) => (name, some value)
        | none => (argument, none)
      unless isName name do mistake (.badName name)
      if let some value := value then assign name value
      modify fun shell =>
        shell.bind name (some (mark ((shell.parameter? name).getD ⟨none, false, false⟩)))
    finish 0

/-- Unsets parameters or functions. -/
def unsetAll (arguments : List Text) : Run Unit := do
  let options ← ownOptions ['f', 'v'] [] arguments
  options.operands.forM fun name => do
    let shell ← get
    if options.lastOf? ['f', 'v'] = some 'f' then
      set { shell with functions := shell.functions.filter (·.1 ≠ name) }
    else if !isName name then mistake (.badName name)
    else if (shell.parameter? name).any (·.fixed) then mistake (.fixedName name)
    else set (shell.bind name none)
  finish 0

/-- Makes parameters belong to the function that runs. -/
def makeLocal (arguments : List Text) : Run Unit := do
  if (← get).depth = 0 then mistake .outsideFunction
  arguments.forM fun argument => do
    if argument = ['-'] then
      modify fun shell => { shell with savedOptions := shell.savedOptions.or (some shell.options) }
    else
      let (name, value) := (assigned? argument).map (fun entry => (entry.1, some entry.2))
        |>.getD (argument, none)
      unless isName name do mistake (.badName name)
      modify fun shell => { shell with saved := (name, shell.parameter? name) :: shell.saved }
      if let some value := value then assign name value
  finish 0

/-- A line that tells what an alias stands for. -/
def aliasLine (entry : Text × Text) : Text :=
  entry.1 ++ '=' :: inQuotes entry.2 ++ ['\n']

/-- Sets aliases, or tells what they stand for. -/
def setAliases (arguments : List Text) : Run Unit := do
  finish 0
  if arguments = [] then write ((← get).aliases.flatMap aliasLine)
  arguments.forM fun argument => do
    let shell ← get
    match assigned? argument, shell.aliases.lookup argument with
    | some (name, value), _ =>
        set { shell with aliases := (name, value) :: shell.aliases.filter (·.1 ≠ name) }
    | none, some value => write (aliasLine (argument, value))
    | none, none => do
        tell ("alias: ".toList ++ argument ++ " not found\n".toList)
        finish 1

/-- Takes aliases away. -/
def unsetAliases (arguments : List Text) : Run Unit := do
  finish 0
  let options ← ownOptions ['a'] [] arguments
  if options.has 'a' then modify fun shell => { shell with aliases := [] }
  else
    options.operands.forM fun name => do
      let shell ← get
      if (shell.aliases.lookup name).isNone then
        tell ("unalias: ".toList ++ name ++ " not found\n".toList)
        finish 1
      else set { shell with aliases := shell.aliases.filter (·.1 ≠ name) }

/-- The rights that a mask leaves to each of three groups, in writing. -/
def rightsInWriting (mask : Nat) : Text :=
  let rights (group : Char) (taken : Nat) : Text :=
    group :: '=' :: (if taken / 4 % 2 = 0 then ['r'] else []) ++ (if taken / 2 % 2 = 0 then ['w'] else [])
      ++ if taken % 2 = 0 then ['x'] else []
  List.intercalate [','] [rights 'u' (mask / 64), rights 'g' (mask / 8 % 8), rights 'o' (mask % 8)]

/-- Sets the rights that are taken from new files, by digits or in writing, or tells them. -/
def setMask (arguments : List Text) : Run Unit := do
  let options ← ownOptions ['S'] [] arguments
  let shell ← get
  match options.operands with
  | [] =>
      let digits := Nat.toDigits 8 shell.mask
      writeLine (if options.has 'S' then rightsInWriting shell.mask
        else List.replicate (4 - digits.length) '0' ++ digits)
  | value :: _ =>
      if (value.head?).any Char.isDigit then
        if value.all fun c => '0' ≤ c && c ≤ '7' then
          set { shell with mask := Nat.ofDigitChars 8 value 0 % 512, status := 0 }
        else mistake (.illegalNumber value)
      else
        match Rights.changed? value 0 false (Nat.xor 0o777 shell.mask) with
        | some rights => set { shell with mask := Nat.xor 0o777 (Nat.land rights 0o777), status := 0 }
        | none => mistake (.illegalMode value)

/-- The path and the text of a script that is run within another one. A name without a slash is looked for in
the directories of the search path. -/
def ShellState.scriptAt (shell : ShellState) (name : Text) : Except SystemError (Text × Text) :=
  if '/' ∈ name then (shell.readable name).map fun text => (name, text)
  else
    let paths := (Text.segments ':' ((shell.value? "PATH").getD [])).map fun directory =>
      if directory = [] then name else directory ++ '/' :: name
    match paths.findSome? fun path => (shell.fileText? path).map fun text => (path, text) with
    | some found => .ok found
    | none => .error .notFound

/-- Runs the script of a file in this shell. -/
def runWithin (run : Runner) (arguments : List Text) : Run Unit := do
  match arguments with
  | [] => finish 2
  | name :: _ =>
      match (← get).scriptAt name with
      | .error .notFound =>
          if '/' ∈ name then mistake (.unopened name .notFound) else mistake (.uncalled name .notFound)
      | .error cause => mistake (.unopened name cause)
      | .ok (path, text) =>
          finish 0
          match ← attempt (notLast (speaking path (runLines run text))) with
          | none => pure ()
          | some (.returned status) => finish status
          | some stop => throw stop

/-- Runs a text in this shell. -/
def evaluateText (run : Runner) (arguments : List Text) : Run Unit := do
  finish 0
  notLast (runLines run (List.intercalate [' '] arguments))

/-- Asks where commands are found. -/
def findAll (arguments : List Text) : Run Unit := do
  let options ← ownOptions ['r', 'v'] [] arguments
  finish 0
  options.operands.forM fun name => do
    if (programPath? (← get) name).isNone then
      complain (.uncalled name .notFound)
      finish 1

/-- Runs a command by whose mistakes the shell is not ended. -/
def forgiving (command : List Text → Run Unit) (arguments : List Text) : Run Unit := do
  match ← attempt (command arguments) with
  | none => pure ()
  | some .mistaken => finish mistakeStatus
  | some stop => throw stop

/-- Prints by a format. -/
def printByFormat (arguments : List Text) : Run Unit := do
  let options ← ownOptions [] [] arguments
  match options.operands with
  | [] => mistake (.words "usage: printf format [arg ...]".toList)
  | format :: arguments =>
      let print := Printing.formatPrint .command format arguments
      print.messages.forM fun message => complain (.words message)
      write print.text
      finish print.status

/-- Complains about what is wrong with a condition. -/
def complainOfFault (fault : ConditionFault) : Run Unit :=
  mistake (.words fault.message)

/-- The names of commands that are part of the shell and do nothing here. -/
def idleNames : List String :=
  ["jobs", "bg", "fg", "times"]

/-- The commands that belong to the language itself, by their names. -/
def specialBuiltins (run : Runner) : List (String × (List Text → Run Unit)) :=
  [ (":", fun _ => finish 0),
    ("exit", exit),
    ("return", leave),
    ("break", leaveLoops .broken),
    ("continue", leaveLoops .continued),
    ("shift", shiftArguments),
    ("set", configure),
    ("export", markAll "export " (·.exported) fun parameter => { parameter with exported := true }),
    ("readonly", markAll "readonly " (·.fixed) fun parameter => { parameter with fixed := true }),
    ("unset", unsetAll),
    ("local", makeLocal),
    ("trap", setTraps),
    (".", runWithin run),
    ("eval", evaluateText run) ]

/-- The other commands that are part of the shell, by their names. -/
def plainBuiltins : List (String × (List Text → Run Unit)) :=
  [ ("true", fun _ => finish 0),
    ("false", fun _ => finish 1),
    ("echo", fun arguments => do
      write (Printing.echoed arguments)
      finish 0),
    ("printf", printByFormat),
    ("test", runTest complainOfFault),
    ("[", runBracket complainOfFault),
    ("cd", changeDirectory),
    ("chdir", changeDirectory),
    ("pwd", tellDirectory),
    ("read", readParameters),
    ("getopts", readOption),
    ("alias", setAliases),
    ("unalias", unsetAliases),
    ("umask", setMask),
    ("hash", findAll),
    ("ulimit", fun arguments => do
      if arguments.all isOption then writeLine "unlimited".toList else finish 0),
    ("kill", sendSignals),
    ("wait", awaitJobs) ]
    ++ idleNames.map fun name => (name, fun _ => finish 0)

/-- The commands that are part of the shell, by their names. -/
def builtins (run : Runner) : List (String × (List Text → Run Unit)) :=
  specialBuiltins run ++ plainBuiltins.map fun (name, command) => (name, forgiving command)

/-- The command that is part of the shell under a name. Complaints come from it while it runs. -/
def builtin? (run : Runner) (name : Text) : Option (List Text → Run Unit) :=
  ((builtins run).find? fun entry => entry.1.toList = name).map fun entry arguments =>
    noticing 1 (speaking name (entry.2 arguments))

/-- Whether a name is that of a command which belongs to the language itself. -/
def isSpecial (name : Text) : Bool :=
  specialNames.contains name

end SecureShell.Rehearsal.Shell
