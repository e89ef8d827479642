/-
Module: SecureShell.Rehearsal.Shell.RecordFlows
Purpose: What a program reads and writes that deals with records: the files among its operands one after the other,
  files and commands that it opens by their names, and its output. How a command is run is handed in.
Main exports: CommandRunner, Recording.nextRecord, Recording.readNamed, Recording.printTo, Recording.close
-/
import SecureShell.Rehearsal.Shell.RecordState

namespace SecureShell.Rehearsal.Shell

/-- Runs a command that is given by a text, by a shell that is called by a name. -/
abbrev CommandRunner := (called : Text) → (command : Text) → Run Unit

/-- A thing that is read or written by a name: a file, to be written anew or behind what it holds, or a command. -/
inductive RecordGoal where
  | anew
  | behind
  | command
deriving DecidableEq, Repr

namespace Recording

/-- The refusal of a file that cannot be read. -/
def failToRead {α : Type} (cause : SystemError) : Recording α :=
  abort ("read error (".toList ++ cause.reason ++ [')'])

/-- All of the input that is not a file among the operands. -/
def standardInput : Recording RecordInput := do
  let shell := (← get).shell
  match shell.stream? 0, shell.source? 0 with
  | some .directory, _ => failToRead .isDirectory
  | _, none => failToRead .badStream
  | _, some ⟨_, supply⟩ => ofRun do
      let tail := match supply with
        | .nothing => RecordTail.nothing
        | .flood _ => .endless
        | _ => .later
      let live ← liveText
      let text ← match live with
        | some text => pure text
        | none => heldText
      leaveInput []
      pure ⟨text, tail⟩

/-- What a file holds, or why it cannot be opened. -/
def openFile (name : Text) : Recording (Except SystemError RecordInput) := do
  if name = ['-'] ∨ deviceStream? name = some 0 then pure (.ok (← standardInput))
  else if isNullDevice name then pure (.ok ⟨[], .nothing⟩)
  else if isZeroDevice name then pure (.ok ⟨flooded [] zeroUnit, .endless⟩)
  else
    match (← get).shell.readable name with
    | .ok text => pure (.ok ⟨text, .nothing⟩)
    | .error .isDirectory => failToRead .isDirectory
    | .error cause => pure (.error cause)

/-- The variable and the value that an operand gives to it, if it does. -/
def assignment? (operand : Text) : Option (Text × Text) :=
  let name := operand.takeWhile RecordToken.isNameChar
  match operand.drop name.length with
  | '=' :: value =>
      if name.head?.any (fun c => !c.isDigit) then
        some (name, RecordToken.unescaped (value.length + 1) value)
      else none
  | _ => none

/-- The operand of a number, if there is one. -/
def operand (number : Nat) : Recording Text := do
  match (← get).globals.lookup "ARGV".toList with
  | some (.table argv) => textOf ((← table argv).value (.number number))
  | _ => pure []

/-- Opens the next file among the operands. Without any the input is read. `fuel` bounds the steps. -/
def openNext : (fuel : Nat) → Recording (Option RecordInput)
  | 0 => stuck
  | fuel + 1 => do
      let state ← get
      let count := wordOf (← global "ARGC").toNumber
      if count ≤ state.operand then
        if state.hasInput then pure none
        else
          modify fun state => { state with hasInput := true }
          some <$> standardInput
      else
        spend 1
        modify fun state => { state with operand := state.operand + 1 }
        let name ← operand state.operand
        match assignment? name with
        | some (name, value) =>
            setVariable name (.input value)
            openNext fuel
        | none =>
            if name = [] then openNext fuel
            else
              modify fun state => { state with hasInput := true }
              match ← openFile name with
              | .error cause =>
                  abort ("cannot open \"".toList ++ name ++ "\" (".toList ++ cause.reason ++ [')'])
              | .ok input =>
                  setGlobal "FILENAME" (.text name)
                  setGlobal "FNR" (.number 0)
                  pure (some input)

/-- The end of records. -/
def recordEnd : Recording RecordEnd := do
  match RecordEnd.ofText (← globalText "RS") with
  | .ok ending => pure ending
  | .error words => fail words

/-- Steps a variable that counts. -/
def count (name : String) : Recording Unit := do
  setGlobal name (.number ((← global name).toNumber + 1))

/-- The record at the beginning of something that is read, and what is left; none at its end. It is read in great parts
at once unless the program is prompt. -/
def cut (input : RecordInput) : Recording (Option (Text × RecordInput)) := do
  if input.tail = .later ∧ !(← get).isPrompt then stuck
  match RecordParts.cutRecord (← recordEnd) (input.tail ≠ .nothing) input.left with
  | .found record rest => pure (some (record, { input with left := rest }))
  | .none => pure none
  | .open => if input.tail = .endless then endless else stuck

/-- The next record of the operands. `fuel` bounds how many files are passed. -/
def nextOf : (fuel : Nat) → Recording (Option Text)
  | 0 => stuck
  | fuel + 1 => do
      match (← get).input with
      | some input =>
          match ← cut input with
          | some (record, rest) =>
              modify fun state => { state with input := some rest }
              count "NR"
              count "FNR"
              pure (some record)
          | none =>
              modify fun state => { state with input := none }
              nextOf fuel
      | none =>
          match ← openNext operandLimit with
          | some input =>
              modify fun state => { state with input := some input }
              nextOf fuel
          | none => pure none
where
  operandLimit : Nat := 1000000

/-- The next record of the operands. -/
def nextRecord : Recording (Option Text) :=
  nextOf 1000000

/-- The name by which the shell of commands is called whose streams are read or written. -/
def pipeShell : Text := "/bin/sh".toList

/-- Whether a stream is read. -/
def isRead : RecordFlow → Bool
  | .file _ => true
  | .answer _ _ => true
  | _ => false

/-- Whether a stream belongs to a command. -/
def isCommand : RecordFlow → Bool
  | .answer _ _ => true
  | .fed _ => true
  | _ => false

/-- A stream that is open. -/
def opened? (name : Text) (reads commands : Bool) : Recording (Option RecordFlow) := do
  let found := (← get).streams.find? fun entry =>
    entry.1 = name && isRead entry.2 == reads && isCommand entry.2 == commands
  pure (found.map (·.2))

/-- Keeps a stream as the one that has been used last. -/
def keep (name : Text) (flow : RecordFlow) : Recording Unit :=
  modify fun state => { state with
    streams := (name, flow) :: state.streams.filter fun entry =>
      !(entry.1 = name && isRead entry.2 == isRead flow && isCommand entry.2 == isCommand flow) }

/-- What can be read where something comes behind a text. -/
def begun (text : Text) : Supply → RecordInput
  | .nothing => ⟨text, .nothing⟩
  | .flood unit => ⟨flooded text unit, .endless⟩
  | .peer => ⟨text ++ peerGreeting, .later⟩
  | .caller => ⟨text ++ callerGreeting, .later⟩
  | _ => ⟨text, .later⟩

/-- What a command answers, and its status. -/
def answerOf (run : Text → Run Unit) (command : Text) : Run (Nat × RecordInput) := do
  let (stop, number, text) ← collect (run command)
  let status := (← get).status
  match stop with
  | none => pure (status, ⟨text, .nothing⟩)
  | some (.passing supply other) =>
      if other = number then pure (0, begun text supply) else throw (.passing supply other)
  | some stop => throw stop

/-- Runs a command that is given a text, and tells its status. -/
def feed (run : Text → Run Unit) (command text : Text) : Run Nat := do
  let before ← get
  let stream ← newInput text .nothing .pipe
  modify (·.withStream 0 (some stream))
  takingBack (fun shell => (shell.withStream 0 (before.stream? 0)).forgetting before) (run command)
  pure (← get).status

/-- The stream of a file or of a command that is read by its name, unless it cannot be opened. -/
def opening (run : CommandRunner) (isCommand : Bool) (name : Text) : Recording (Option RecordFlow) := do
  match ← opened? name true isCommand with
  | some flow => pure (some flow)
  | none =>
      if isCommand then
        writeAll
        let (status, input) ← ofRun (answerOf (run pipeShell) name)
        pure (some (.answer status input))
      else
        match ← openFile name with
        | .ok input => pure (some (.file input))
        | .error _ => pure none

/-- The next record of a file or of a command that is read by its name; none at its end, and nothing at all if it cannot
be opened. -/
def readNamed (run : CommandRunner) (isCommand : Bool) (name : Text) : Recording (Option (Option Text)) := do
  let step (input : RecordInput) (keepWith : RecordInput → RecordFlow) : Recording (Option (Option Text)) := do
    match ← cut input with
    | some (record, rest) =>
        keep name (keepWith rest)
        pure (some (some record))
    | none =>
        keep name (keepWith ⟨[], input.tail⟩)
        pure (some none)
  match ← opening run isCommand name with
  | some (.file input) => step input .file
  | some (.answer status input) => step input (.answer status)
  | _ => pure none

/-- Prints a text to a goal that has a name. -/
def printNamed (goal : RecordGoal) (name text : Text) : Recording Unit := do
  if goal ≠ .command ∧ deviceStream? name = some 1 then print text
  else if goal ≠ .command ∧ deviceStream? name = some 2 then
    ofRun do writeTo ((← get).stream? 2) text
  else
    match ← opened? name false (goal = .command) with
    | some (.written stream texts) => keep name (.written stream (text :: texts))
    | some (.fed texts) => keep name (.fed (text :: texts))
    | _ =>
        if goal = .command then
          writeAll
          keep name (.fed [text])
        else
          match ← ofRun (openForWriting (if goal = .behind then .behind else .anyway) name) with
          | .ok stream => keep name (.written (some stream) [text])
          | .error cause =>
              abort ("cannot open \"".toList ++ name ++ "\" for output (".toList ++ cause.reason ++ [')'])

/-- Prints a text to a goal, or to the output if none is named. -/
def printTo (goal : Option (RecordGoal × Text)) (text : Text) : Recording Unit :=
  match goal with
  | none => print text
  | some (goal, name) => printNamed goal name text

/-- Ends a stream, and tells its status. -/
def ending (run : CommandRunner) (name : Text) (flow : RecordFlow) : Recording Nat := do
  match flow with
  | .file _ => pure 0
  | .answer status _ => pure status
  | .written _ _ => do
      let _ ← writeFlow name flow
      pure 0
  | .fed texts => ofRun (feed (run pipeShell) name texts.reverse.flatten)

/-- Ends the streams of a name, and tells the status of the last one, if there is any. -/
def close (run : CommandRunner) (name : Text) : Recording (Option Nat) := do
  let streams := (← get).streams
  modify fun state => { state with streams := streams.filter (·.1 ≠ name) }
  (streams.filter (·.1 = name)).foldlM (fun _ entry => do pure (some (← ending run entry.1 entry.2))) none

/-- Ends all streams: those of commands first. -/
def closeAll (run : CommandRunner) : Recording Unit := do
  let streams := (← get).streams
  modify fun state => { state with streams := [] }
  let (commands, files) := streams.partition fun entry => isCommand entry.2
  for (name, flow) in commands do
    match flow with
    | .fed texts =>
        let _ ← ofRun (feed (run pipeShell) name texts.reverse.flatten)
    | _ => pure ()
  writeOutput true
  for (name, flow) in files do
    let _ ← ending run name flow

/-- Writes what has been printed to a stream, and tells whether there is one. -/
def flush (name : Text) : Recording Bool := do
  if deviceStream? name = some 1 then
    writeOutput true
    pure true
  else
    match ← opened? name false false, ← opened? name false true with
    | some flow, _ => do
        let (name, flow) ← writeFlow name flow
        keep name flow
        pure true
    | none, some _ => pure true
    | none, none => pure (deviceStream? name = some 2)

end Recording

end SecureShell.Rehearsal.Shell
