/-
Module: SecureShell.Rehearsal.Shell.FileConditions
Purpose: What conditions ask about files is answered by what the shell knows of them, and by the devices that
  stand for its streams.
Main exports: fileQuestions, runTest, runBracket
-/
import SecureShell.Rehearsal.Shell.Condition
import SecureShell.Rehearsal.Shell.Relaying

namespace SecureShell.Rehearsal.Shell

open FileSystem (Tree Place Node)

/-- Whether a stream leads to another process. -/
def ShellState.isPipe (shell : ShellState) (number : Nat) : Bool :=
  match shell.stream? number with
  | some .toCaller => true
  | some (.collecting _) => true
  | some (.input _ .pipe) => true
  | _ => false

/-- The place of a file to which a stream leads. -/
def ShellState.streamPlace? (shell : ShellState) (number : Nat) : Option Place :=
  match shell.stream? number with
  | some (.file file) => (shell.openFiles.lookup file).bind (·.place)
  | _ => none

/-- The names of devices that are always there, besides those that stand for streams. -/
def devices : List Text :=
  ["/dev/null", "/dev/zero", "/dev/full", "/dev/random", "/dev/urandom", "/dev/tty"].map String.toList

/-- Whether a name stands for a device. -/
def ShellState.isDevice (shell : ShellState) (name : Text) : Bool :=
  devices.contains name || (deviceStream? name).any fun number => match shell.stream? number with
    | some .nowhere => true
    | some (.input _ .device) => true
    | _ => false

/-- The place that a name leads to, also through the name of a stream. -/
def ShellState.meantPlace? (shell : ShellState) (name : Text) : Option Place :=
  match deviceStream? name with
  | some number => shell.streamPlace? number
  | none => (shell.resolve name).toOption

/-- Whether a name is that of a link. -/
def ShellState.isLink (shell : ShellState) (name : Text) : Bool :=
  match shell.tree.resolve shell.place false ⟨name⟩ with
  | .error _ => false
  | .ok place => match shell.tree.node? place with
      | some (.link _) => true
      | _ => false

/-- The right that a letter asks for, if it asks for one that is not always given. -/
def askedRight? (letter : Char) : Option Nat :=
  [('u', 0o4000), ('g', 0o2000), ('k', 0o1000)].lookup letter

/-- The answers to questions about files. -/
def fileQuestions (shell : ShellState) : FileQuestions where
  holds letter name :=
    match letter with
    | 'h' => shell.isLink name
    | 'L' => shell.isLink name
    | 'c' => shell.isDevice name
    | 'p' => (deviceStream? name).any shell.isPipe
    | 'b' => false
    | letter =>
        match (shell.meantPlace? name).bind fun place => (shell.tree.node? place).map (place, ·) with
        | none =>
            ['e', 'r', 'w', 'O', 'G'].contains letter
              && (shell.isDevice name || (deviceStream? name).any shell.isPipe)
        | some (place, node) =>
            match letter, node with
            | 'f', .file _ => true
            | 'd', .directory => true
            | 'S', .socket => true
            | 's', .file content => content ≠ []
            | 's', .directory => true
            | 'x', .directory => true
            | 'x', _ => shell.isRunnable place
            | letter, _ =>
                match askedRight? letter with
                | some right => Nat.land (shell.mode place) right ≠ 0
                | none => ['e', 'r', 'w', 'O', 'G'].contains letter
  same first second :=
    match shell.meantPlace? first, shell.meantPlace? second with
    | some left, some right => (shell.placesOf left).contains right
    | _, _ => false
  newer first second :=
    match shell.meantPlace? first, shell.meantPlace? second with
    | some left, some right => (shell.detailsOf right).time < (shell.detailsOf left).time
    | _, _ => false

/-- The status of the test command where a condition is malformed. -/
def malformedStatus : Nat := 2

/-- Runs the test command. What is wrong is told by what is handed in. -/
def runTest (report : ConditionFault → Run Unit) (arguments : List Text) : Run Unit := do
  match condition (fileQuestions (← get)) arguments with
  | .ok holds => finish (statusOf holds)
  | .error fault => report fault

/-- Runs the test command with a bracket behind its arguments. -/
def runBracket (report : ConditionFault → Run Unit) (arguments : List Text) : Run Unit :=
  match withoutBracket arguments with
  | .ok arguments => runTest report arguments
  | .error fault => report fault

/-- Tells what is wrong with a condition as a program does. -/
def reportFault (called : Text) (fault : ConditionFault) : Run Unit := do
  tell (called ++ ": ".toList ++ fault.message ++ ['\n'])
  finish malformedStatus

end SecureShell.Rehearsal.Shell
