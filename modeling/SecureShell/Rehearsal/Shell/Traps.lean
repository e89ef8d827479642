/-
Module: SecureShell.Rehearsal.Shell.Traps
Purpose: Signals and what a shell does about them: it is told what to run on a signal or at its end, sends
  signals to itself and to what runs in the background, and waits for that.
Main exports: signalNumber?, setTraps, sendSignals, runPending, awaitJobs
-/
import SecureShell.Rehearsal.Shell.Input

namespace SecureShell.Rehearsal.Shell

/-- The names of the conditions of traps by their numbers: the end of the shell, and the signals. -/
def conditionNames : List String :=
  ["EXIT", "HUP", "INT", "QUIT", "ILL", "TRAP", "ABRT", "BUS", "FPE", "KILL", "USR1", "SEGV", "USR2",
    "PIPE", "ALRM", "TERM", "STKFLT", "CHLD", "CONT", "STOP", "TSTP", "TTIN", "TTOU", "URG", "XCPU",
    "XFSZ", "VTALRM", "PROF", "WINCH", "IO", "PWR", "SYS"]

/-- The number of a condition. -/
def conditionNumber? (condition : Text) : Option Nat :=
  match count? condition with
  | some number => if number < 65 then some number else none
  | none =>
      let wanted := condition.map Char.toUpper
      let number := (conditionNames.takeWhile fun name => name.toList ≠ wanted).length
      if number < conditionNames.length then some number else none

/-- The name of a condition. -/
def conditionName (number : Nat) : Text :=
  match conditionNames[number]? with
  | some name => name.toList
  | none => Text.decimal number

/-- The signals that do nothing unless a trap is set on them. -/
def idleSignals : List Nat := [0, 17, 18, 23, 28]

/-- The signals that stop a process. -/
def stoppingSignals : List Nat := [19, 20, 21, 22]

/-- The signals on which no trap has an effect. -/
def finalSignals : List Nat := [9, 19]

/-- A text in single quotes; single quotes themselves stand in double quotes. -/
def inQuotes (text : Text) : Text :=
  let runs := text.splitBy fun left right => (left = '\'') = (right = '\'')
  if text = [] then ['\'', '\'']
  else runs.flatMap fun run =>
    if run.head? = some '\'' then '"' :: run ++ ['"'] else '\'' :: run ++ ['\'']

/-- Writes the traps, in the order of their conditions. -/
def tellTraps : Run Unit := do
  let shell ← get
  let ordered := (List.range 65).filterMap fun number =>
    let name := conditionName number
    (shell.traps.lookup name).map fun action => (name, action)
  write (ordered.flatMap fun (name, action) =>
    "trap -- ".toList ++ inQuotes action ++ ' ' :: name ++ ['\n'])
  finish 0

/-- Sets or takes away what is run on each of some conditions. -/
def setTrapOn (action : Option Text) : List Text → Run Unit
  | [] => finish 0
  | condition :: rest => do
      match conditionNumber? condition with
      | none => finish 1
      | some number =>
          let name := conditionName number
          modify fun shell => { shell with
            traps := (action.map fun action => (name, action)).toList
              ++ shell.traps.filter (·.1 ≠ name) }
          setTrapOn action rest

/-- Sets what is run on a signal or when the shell ends. Without an action, or with a dash for one, nothing
is run any more. -/
def setTraps (arguments : List Text) : Run Unit :=
  match afterOptions [] arguments with
  | [] => tellTraps
  | [condition] => setTrapOn none [condition]
  | action :: conditions =>
      if ((count? action).bind fun _ => conditionNumber? action).isSome then
        setTrapOn none (action :: conditions)
      else setTrapOn (if action = ['-'] then none else some action) conditions

/-- Sends a signal to the process of the shell. What a trap says about it is run later. -/
def signalShell (signal : Nat) : Run Unit := do
  let shell ← get
  let traps := if shell.isOwner then shell.traps else shell.ownerTraps
  match if finalSignals.contains signal then none else traps.lookup (conditionName signal) with
  | some [] => pure ()
  | some action => set { shell with pending := shell.pending ++ [action] }
  | none =>
      if idleSignals.contains signal then pure ()
      else if stoppingSignals.contains signal then blocked
      else throw (.killed signal)

/-- The status of a command that a signal has ended. -/
def killedStatus (signal : Nat) : Nat := 128 + signal

/-- Sends a signal to a command in the background. -/
def signalJob (signal : Nat) (job : Job) : Run Unit := do
  let ends := !(idleSignals ++ stoppingSignals).contains signal
  modify fun shell =>
    let change (other : Job) : Job :=
      if other = job ∧ ends = true ∧ shell.slept < job.ending then
        { job with status := killedStatus signal, ending := shell.slept }
      else other
    { shell with jobs := shell.jobs.map change }

/-- Sends a signal to each of some processes. -/
def signalAll (signal : Nat) (failed : Bool) : List Text → Run Unit
  | [] => finish (if failed then 1 else 0)
  | target :: rest => do
      let shell ← get
      match count? target with
      | none => finish 2
      | some number =>
          if number = shell.process then
            signalShell signal
            signalAll signal failed rest
          else
            match shell.jobs.find? (·.process = number) with
            | some job =>
                signalJob signal job
                signalAll signal failed rest
            | none => signalAll signal true rest

/-- Writes the name of the signal that a number or a status stands for. -/
def tellSignal (argument : Text) : Run Unit := do
  match count? argument with
  | none => finish 2
  | some number =>
      let signal := if 128 < number then number - 128 else number
      write (conditionName signal ++ ['\n'])
      finish 0

/-- Sends signals, of which one is meant without being told. -/
def sendSignals (arguments : List Text) : Run Unit :=
  let send (signal : Option Nat) (targets : List Text) : Run Unit :=
    match signal, targets with
    | some signal, target :: targets => signalAll signal false (target :: targets)
    | _, _ => finish 2
  match arguments with
  | ['-', 'l'] :: argument :: _ => tellSignal argument
  | [['-', 'l']] => do
      write ((conditionNames.drop 1).flatMap fun name => name.toList ++ ['\n'])
      finish 0
  | ['-', 's'] :: name :: targets => send (conditionNumber? name) targets
  | ['-', '-'] :: targets => send (conditionNumber? "TERM".toList) targets
  | ('-' :: name) :: targets => send (conditionNumber? name) targets
  | targets => send (conditionNumber? "TERM".toList) targets

/-- Runs what traps say about the signals that have come, if it is up to this shell. -/
def runPending (run : Runner) : Run Unit := do
  let shell ← get
  if shell.isOwner && shell.pending ≠ [] then
    set { shell with pending := [] }
    shell.pending.forM (runLines run)
    finish shell.status

/-- Waits until a time. -/
def awaitTime (time : Milliseconds) : Run Unit := do
  modify fun shell => { shell with slept := max shell.slept time }
  if 0 < time then pause 0

/-- Waits for each of some commands in the background. -/
def awaitEach : List Text → Run Unit
  | [] => pure ()
  | target :: rest => do
      let shell ← get
      match count? target with
      | none => finish 2
      | some number =>
          match shell.jobs.find? fun job => job.process = number ∧ job.isOrphan = false with
          | none =>
              finish 127
              awaitEach rest
          | some job =>
              awaitTime job.ending
              finish job.status
              awaitEach rest

/-- Waits for what runs in the background: for all of it unless some is named. -/
def awaitJobs (arguments : List Text) : Run Unit := do
  if arguments = [] then
    let shell ← get
    let own := shell.jobs.filter fun job => !job.isOrphan
    awaitTime (own.foldl (fun latest job => max latest job.ending) 0)
    modify fun shell => { shell with jobs := shell.jobs.filter (·.isOrphan) }
    finish 0
  else awaitEach arguments

example : inQuotes "it's".toList = "'it'\"'\"'s'".toList := by decide

end SecureShell.Rehearsal.Shell
