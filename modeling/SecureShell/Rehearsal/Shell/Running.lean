/-
Module: SecureShell.Rehearsal.Shell.Running
Purpose: Commands are run one after the other, line by line of a script, and on behalf of others: to
  collect what they write, or in a shell of their own. How a single command is run is handed in.
Main exports: Runner, runAll, runLines, endingWith, waitedFor, collector
-/
import SecureShell.Rehearsal.Shell.Reading
import SecureShell.Rehearsal.Shell.Redirecting

namespace SecureShell.Rehearsal.Shell

/-- Runs a command. -/
abbrev Runner := Script → Run Unit

/-- The names of the commands that set parameters by words which look like assignments. -/
def declaringNames : List Text :=
  ["export", "readonly", "local"].map String.toList

/-- Fills in the words behind the name of a command. One that sets parameters gets what looks like an
assignment unsplit. -/
def fillArguments (collector : Collector) (declares : Bool) (words : List Word) : Run (List Text) := do
  let fields ← words.mapM fun word =>
    match declares, assignment? word with
    | true, some assigned => do
        pure [assigned.name ++ '=' :: (← fillAssignment collector assigned.value)]
    | _, _ => fillFields collector word
  pure fields.flatten

/-- Fills in the words of a command, whose name may stand behind another one that only runs it. -/
def fillCommand (collector : Collector) : List Word → Run (List Text)
  | [] => pure []
  | word :: rest => do
      match ← fillFields collector word with
      | [] => fillCommand collector rest
      | name :: more =>
          let names := name :: more
          if more = [] ∧ (name = "command".toList ∨ name.head? = some '-') then
            pure (names ++ (← fillCommand collector rest))
          else pure (names ++ (← fillArguments collector (declaringNames.contains name) rest))

/-- Runs commands one after the other. -/
def runAll (run : Runner) : List Script → Run Unit
  | [] => pure ()
  | [last] => run last
  | first :: rest => do
      notLast (run first)
      runAll run rest

/-- Runs the lines of a script. A line that is malformed is a mistake. `fuel` bounds their number. -/
def runLinesFrom (run : Runner) (lineOf : Text → Nat) : (fuel : Nat) → Text → Run Unit
  | 0, _ => blocked
  | fuel + 1, text => do
      match readLine (← get).aliases lineOf text with
      | .finished => pure ()
      | .malformed => throw .mistaken
      | .commands line rest =>
          if rest = [] then runAll run line
          else
            notLast (runAll run line)
            runLinesFrom run lineOf fuel rest

/-- Runs the lines of a script. -/
def runLines (run : Runner) (text : Text) : Run Unit := do
  let line := (← get).line
  takingBack (fun shell => { shell with line })
    (runLinesFrom run (lineNumber text) (text.length + 1) text)

/-- The condition of a trap that is run when the shell ends. -/
def exitCondition : Text := "EXIT".toList

/-- Runs what a shell has been told to run at its end behind everything else that it runs. -/
def endingWith (run : Runner) (action : Run Unit) : Run Unit := do
  let stop ← attempt action
  let shell ← get
  let status := match stop with
    | none => some shell.status
    | some stop => stop.shellStatus?
  match status, shell.traps.lookup exitCondition with
  | some status, some text =>
      modify fun shell => { shell with
        traps := shell.traps.filter (·.1 ≠ exitCondition)
        status }
      runLines run text
      throw (.exited status)
  | _, _ =>
      match stop with
      | none => pure ()
      | some stop => throw stop

/-- A shell in which the output to the caller is kept open by one that waits for it. -/
def waitedFor (waiting : ShellState) (shell : ShellState) : ShellState :=
  { shell with isLast := true, held := waiting.held || waiting.speaksToCaller }

/-- Runs commands in a shell of their own and gives what they write. -/
def collector (run : Runner) : Collector := fun body => do
  let before ← get
  let (stop, number, text) ←
    collect (inShell (waitedFor before) (endingWith run (runAll run body)))
  modify fun shell => { shell with status := before.status, substituted := some shell.status }
  match stop with
  | none => pure text
  | some (.passing supply other) => if other = number then blocked else throw (.passing supply other)
  | some stop => throw stop

end SecureShell.Rehearsal.Shell
