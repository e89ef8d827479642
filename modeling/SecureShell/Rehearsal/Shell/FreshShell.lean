/-
Module: SecureShell.Rehearsal.Shell.FreshShell
Purpose: A shell that begins, started by another one. It has parameters of its own and those that are handed
  down, and what other shells have defined is unknown to it.
Main exports: beginningWith, ShellState.fresh, runFreshShell, runShell
-/
import SecureShell.Rehearsal.Shell.Relaying

namespace SecureShell.Rehearsal.Shell

open FileSystem (Tree)

/-- The parameters that every shell begins with. Some have a value of their own whatever is handed down, the
others only unless one is handed down. -/
def ownParameters : List (String × Bool × String) :=
  [ ("IFS", true, " \t\n"),
    ("PATH", false, "/usr/local/sbin:/usr/local/bin:/usr/sbin:/usr/bin:/sbin:/bin"),
    ("PS1", false, "# "),
    ("PS2", false, "> "),
    ("PS4", false, "+ "),
    ("OPTIND", true, "1") ]

/-- The parameters that a shell begins with, to which some are handed down. -/
def beginningWith (handedDown : List (Text × Parameter)) : List (Text × Parameter) :=
  let own := ownParameters.map fun (name, isReset, value) =>
    let found := handedDown.lookup name.toList
    let value := if isReset then some value.toList else (found.bind (·.value)).or (some value.toList)
    (name.toList, Parameter.mk value found.isSome false)
  own ++ handedDown.filter fun entry => (own.lookup entry.1).isNone

/-- The name of the directory of a shell that begins: the one handed down if it is right. -/
def ShellState.directoryName (shell : ShellState) : Text :=
  match shell.parameter? "PWD".toList with
  | some ⟨some name, true, _⟩ =>
      if name.head? = some '/' ∧ (shell.resolve name).toOption = some shell.place then name
      else shell.directory.text
  | _ => shell.directory.text

/-- A shell that begins and notes in which directory it is. -/
def ShellState.inDirectory (shell : ShellState) : ShellState :=
  let written := shell.directoryName
  { shell with written }.bind "PWD".toList (some ⟨some written, true, false⟩)

/-- A shell that begins, started by another one. -/
def ShellState.fresh (shell : ShellState) (name : Text) (arguments : List Text) (options : Options) :
    ShellState :=
  let begun : ShellState := { shell with
    parameters := beginningWith shell.environment
    savedOptions := none
    depth := 0
    line := fun _ => 1
    speaker := none
    arguments, nextArgument := 1, argumentOffset := none
    name, options
    functions := []
    aliases := []
    process := shell.nextProcess
    isOwner := true
    pending := []
    nextProcess := shell.nextProcess + 1
    lastJob := none
    loops := 0
    isLast := false
    tested := false }
  begun.inDirectory.bind "PPID".toList (some ⟨some (Text.decimal shell.process), false, false⟩)

/-- Runs the text of a script in a shell that begins. -/
def runFreshShell (run : Runner) (name : Text) (arguments : List Text) (options : Options)
    (lines : Run Unit) : Run Unit := do
  let begun (shell : ShellState) : ShellState := shell.fresh name arguments options
  match ← attempt (inShell begun (endingWith run lines)) with
  | none => pure ()
  | some (.killed signal) => finish (128 + signal)
  | some stop => throw stop

/-- The program that is a shell. It runs a script that is given as an argument, by a file, or at the input. A
directory is an empty script. -/
def runShell (run : Runner) (called : Text) (arguments : List Text) : Run Unit := do
  let complain (words : Text) : Run Unit := do
    tell (called ++ ": 0: ".toList ++ words ++ ['\n'])
    finish 2
  match Options.usual.read true arguments with
  | .error fault => complain ("Illegal option ".toList ++ fault)
  | .ok ⟨options, letters, rest⟩ =>
      let arguments := rest.getD []
      if letters.contains 'c' then
        match arguments with
        | [] => complain "-c requires an argument".toList
        | text :: arguments =>
            runFreshShell run (arguments.headD called) (arguments.drop 1) options (runLines run text)
      else
        match arguments, options.has 's' with
        | file :: arguments, false => do
            match (← get).readable file with
            | .ok text => runFreshShell run file arguments options (notLast (runLines run text))
            | .error .isDirectory => finish 0
            | .error cause => complain (Complaint.unopened file cause).message
        | arguments, _ => do
            let text ← takeInput
            runFreshShell run called arguments options (notLast (runLines run text))

end SecureShell.Rehearsal.Shell
