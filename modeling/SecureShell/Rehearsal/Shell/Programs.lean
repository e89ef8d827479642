/-
Module: SecureShell.Rehearsal.Shell.Programs
Purpose: All programs by their names, and how a program is run that is given by its name and arguments. What a
  program writes or changes may decide with which words a script calls the peer, and whether it does.
Main exports: runFound, runProgram
-/
import SecureShell.Rehearsal.Shell.Blocks
import SecureShell.Rehearsal.Shell.Edit
import SecureShell.Rehearsal.Shell.Filtering
import SecureShell.Rehearsal.Shell.Formats
import SecureShell.Rehearsal.Shell.FreshShell
import SecureShell.Rehearsal.Shell.Listing
import SecureShell.Rehearsal.Shell.Names
import SecureShell.Rehearsal.Shell.Records
import SecureShell.Rehearsal.Shell.Traps

namespace SecureShell.Rehearsal.Shell

open FileSystem (Tree)

/-- Prints by a format as a program does. -/
def runPrintf (called : Text) (arguments : List Text) : Run Unit := do
  match if arguments.head? = some "--".toList then arguments.drop 1 else arguments with
  | [] => refuse called 1 .missingOperand
  | format :: arguments =>
      let print := Printing.formatPrint .program format arguments
      say (print.said.map fun saying => match saying with
        | .output text => .output text
        | .message message => .message (called ++ ": ".toList ++ message ++ ['\n']))
      finish print.status

/-- The programs that run by themselves, by their names. -/
def programs : List (String × (Text → List Text → Run Unit)) :=
  [ ("cat", runCat),
    ("dd", runBlocks),
    ("tee", runTee),
    ("sleep", runSleep),
    ("true", fun _ _ => finish 0),
    ("false", fun _ _ => finish 1),
    ("echo", fun _ => runEcho),
    ("printf", runPrintf),
    ("test", fun called => runTest (reportFault called)),
    ("[", fun called => runBracket (reportFault called)),
    ("pwd", fun _ arguments => do
      let shell ← get
      writeLine (if (afterOptions [] arguments).isEmpty && arguments.contains "-L".toList then shell.directoryName
        else shell.directory.text)),
    ("basename", runBasename),
    ("dirname", runDirname),
    ("seq", runSeq),
    ("expr", runExpr),
    ("ls", runList),
    ("mkdir", runMkdir),
    ("touch", runTouch),
    ("rm", runRm),
    ("rmdir", runRmdir),
    ("ln", runLn),
    ("cp", runCp),
    ("mv", runMv),
    ("chmod", runChmod),
    ("readlink", runReadlink),
    ("realpath", runRealpath),
    ("whoami", fun _ _ => writeLine "root".toList),
    ("which", fun _ => runWhich),
    ("yes", fun _ arguments => do
      let texts := if arguments.head? = some "--".toList then arguments.drop 1 else arguments
      let unit := if texts = [] then ['y'] else List.intercalate [' '] texts
      handOn (.flood (unit ++ ['\n']))),
    ("grep", runSearch none),
    ("egrep", runSearch (some 'E')),
    ("fgrep", runSearch (some 'F')),
    ("sed", runEdit),
    ("uname", fun _ _ => writeLine "Linux".toList),
    ("id", runIdentity),
    ("printenv", runEnvironment) ]

/-- The names of programs that are shells. -/
def shellNames : List Text :=
  ["sh", "dash", "bash"].map String.toList

/-- The names of the program that deals with records. -/
def recordNames : List Text :=
  ["awk", "mawk", "nawk"].map String.toList

/-- Runs a program by the name under which it has been found. -/
def runFound (run : Runner) (next : List Text → Run Unit) (called name : Text)
    (arguments : List Text) : Run Unit :=
  match wrapper? conditionNumber? called name next arguments, programs.lookup (String.ofList name),
      Filters.textProgram? name with
  | some action, _, _ => action
  | none, some program, _ => program called arguments
  | none, none, some filter =>
      let failure := if name = "sort".toList then 2 else 1
      runFilter called failure (filter arguments)
  | none, none, none =>
      if shellNames.contains name then runShell run called arguments
      else if recordNames.contains name then runRecords run called arguments
      else writeLine ['?']

/-- The status of a program that has used a stream that leads nowhere. A shell goes on. -/
def failureStatus (name : Text) : Nat :=
  match String.ofList name with
  | "sed" => 4
  | "expr" => 3
  | "sort" => 2
  | "grep" => 2
  | "egrep" => 2
  | "fgrep" => 2
  | "awk" => 2
  | "mawk" => 2
  | "nawk" => 2
  | "ls" => 2
  | "sh" => 0
  | "dash" => 0
  | "bash" => 0
  | _ => 1

/-- The program that the first line of a script names to run it, with an argument if one stands there. -/
def interpreter? (text : Text) : Option (Text × List Text) :=
  match text with
  | '#' :: '!' :: rest =>
      let isBlank (c : Char) : Bool := c = ' ' || c = '\t'
      let line := ((rest.takeWhile (· ≠ '\n')).dropWhile isBlank).reverse.dropWhile isBlank |>.reverse
      let argument := (line.dropWhile fun c => !isBlank c).dropWhile isBlank
      if line = [] then none
      else some (line.takeWhile fun c => !isBlank c, if argument = [] then [] else [argument])
  | _ => none

/-- What becomes of a command that the system does not run. -/
abbrev Report := (name : Text) → SystemError → Run Unit

/-- The wording in which a program tells that it could not run another one. -/
def wrapperReport (wrapper : Text) : Report := fun name cause => do
  let quoted := '\'' :: name ++ ['\'']
  let words := match String.ofList wrapper with
    | "env" => quoted
    | "nice" => quoted
    | "nohup" => "failed to run command ".toList ++ quoted
    | "timeout" => "failed to run command ".toList ++ quoted
    | "stdbuf" => "failed to run command ".toList ++ quoted
    | "setsid" => "failed to execute ".toList ++ name
    | "ionice" => "failed to execute ".toList ++ name
    | _ => name
  tell (wrapper ++ ": ".toList ++ words ++ ": ".toList ++ cause.reason ++ ['\n'])
  finish (if cause = .notFound then 127 else 126)

/-- Runs what the name of a command leads to. `fuel` bounds how many programs are started by one another. -/
def runWhatIsFound (run : Runner) (report : Report) :
    (fuel : Nat) → (name : Text) → Found → (arguments : List Text) → Run Unit
  | 0, _, _, _ => blocked
  | fuel + 1, name, found, arguments => do
      let shell ← get
      set { shell with started := shell.started + 1 }
      if !shell.canHandDown (name :: arguments) then report name .argumentTooLong
      else
        match found with
        | .peer found => noticing 1 (connectPeer found arguments)
        | .program found =>
            let next (wrapped : List Text) : Run Unit := do
              match wrapped with
              | [] => finish 0
              | other :: arguments =>
                  runWhatIsFound run (wrapperReport found) fuel other ((← get).find false other) arguments
            noticing (failureStatus found) (runFound run next name found arguments)
        | .script path text =>
            match interpreter? text with
            | some (interpreter, argument) =>
                let directory := splitPath interpreter
                match shell.findIn directory.1 directory.2 with
                | .refused cause => report name cause
                | found => runWhatIsFound run report fuel interpreter found (argument ++ path :: arguments)
            | none =>
                if '\x00' ∈ text then report name .badFormat
                else runFreshShell run path arguments .usual (notLast (runLines run text))
        | .refused cause => report name cause

/-- Runs a program for the shell, which takes its place if it `replaces` it. -/
def runCalled (run : Runner) (isUsual replaces : Bool) (fields : List Text) : Run Unit := do
  match fields with
  | [] => finish 0
  | name :: arguments =>
      let report : Report := fun name cause => do
        complain (.uncalled name cause)
        finish (if isAbsence cause || (!replaces && !name.contains '/') then 127 else 126)
      runWhatIsFound run report (fields.length + 8) name ((← get).find isUsual name) arguments

end SecureShell.Rehearsal.Shell
