/-
Module: SecureShell.Rehearsal.Shell.Relaying
Purpose: Programs that hand their input on: those that connect to the peer, join files, also write into files, or
  copy blocks. A program that is given live input either hands it on or never comes to its end.
Main exports: connectPeer, takeInput, relay, understood, runCat, runTee
-/
import SecureShell.Rehearsal.Shell.Lookup
import SecureShell.Rehearsal.Shell.Running

namespace SecureShell.Rehearsal.Shell

open FileSystem (Place)

/-- What a peer says first. -/
def peerGreeting : Text := "SSH-2.0-peer\r\n".toList

/-- What the caller says first, before it has heard anything. -/
def callerGreeting : Text := "SSH-2.0-caller\r\n".toList

/-- What stands at an input that may go on. What the caller or a peer says first is there although more
comes only when it has been answered. -/
def liveText : Run (Option Text) := do
  match (← get).source? 0 with
  | some ⟨before, .caller⟩ => pure (some (before ++ callerGreeting))
  | some ⟨before, .peer⟩ => pure (some (before ++ peerGreeting))
  | some ⟨_, .nothing⟩ => pure none
  | some ⟨before, .flood unit⟩ => pure (some (flooded before unit))
  | some ⟨text, _⟩ => pure (some text)
  | none => pure none

/-- Leaves a text at the input behind what has been read of it. -/
def leaveInput (behind : Text) : Run Unit := do
  let before (greeting : Text) (supply : Supply) : Source :=
    if greeting.isSuffixOf behind then ⟨behind.take (behind.length - greeting.length), supply⟩
    else ⟨behind, .remains⟩
  modify fun shell => match shell.source? 0 with
    | some ⟨_, .caller⟩ => shell.withInput (before callerGreeting .caller)
    | some ⟨_, .peer⟩ => shell.withInput (before peerGreeting .peer)
    | some ⟨_, supply⟩ => shell.withInput ⟨behind, supply⟩
    | none => shell

/-- What stands at an input that does not go on. -/
def heldText : Run Text := do
  match (← get).source? 0 with
  | some ⟨text, .nothing⟩ => pure text
  | _ => pure []

/-- Whether anything keeps the output to the caller open. -/
def ShellState.isHeard (shell : ShellState) : Bool :=
  shell.held || shell.speaksToCaller || shell.inBackground || shell.slept < shell.lingering

/-- Connects to the peer. Without the caller at its input a peer says no more than its greeting. -/
def connectPeer (name : Text) (arguments : List Text) : Run Unit := do
  let shell ← get
  if !shell.isHeard then throw .hungUp
  let call : Call := ⟨name :: arguments, shell.directory⟩
  set { shell with calls := shell.calls ++ [call] }
  match shell.source? 0 with
  | some ⟨before, .caller⟩ =>
      leaveInput []
      if (Preamble.empty.feed (bytesOf before)).isClear then handOn .peer else throw .hungUp
  | some ⟨_, .silence⟩ =>
      write peerGreeting
      blocked
  | _ =>
      write peerGreeting
      finish 0

/-- Takes all that stands at the input. Input that goes on never ends. -/
def takeInput : Run Text := do
  match ← liveText with
  | some _ => blocked
  | none => do
      if ((← get).source? 0).isNone then noteFailure
      let text ← heldText
      leaveInput []
      pure text

/-- Hands the input on to the output. -/
def relay : Run Unit := do
  match (← get).source? 0 with
  | some ⟨_, .nothing⟩ =>
      write (← takeInput)
      finish 0
  | some ⟨before, supply⟩ =>
      leaveInput []
      write before
      match supply with
      | .silence => blocked
      | .remains => blocked
      | supply => handOn supply
  | none => do
      noteFailure
      finish 0

/-- Tells that a program refuses its arguments. -/
def refuse (called : Text) (status : Nat) (misuse : Misuse) : Run Unit := do
  tell (misuse.message called)
  finish status

/-- Goes on with what a program has understood of its arguments, or refuses them. -/
def understood {α : Type} (called : Text) (status : Nat) (found : Except Misuse α) (next : α → Run Unit) :
    Run Unit :=
  match found with
  | .ok found => next found
  | .error misuse => refuse called status misuse

/-- Tells what a program has to say about a file, and that it has failed. -/
def complainOf (called words : Text) (cause : SystemError) (status : Nat) : Run Unit := do
  tell (called ++ ": ".toList ++ words ++ ": ".toList ++ cause.reason ++ ['\n'])
  finish status

/-- Says things one after the other. -/
def say (sayings : List Filters.Saying) : Run Unit :=
  sayings.forM fun saying => match saying with
    | .output text => write text
    | .message text => tell text

/-- The kind of thing that the input is. -/
def ShellState.inputOrigin (shell : ShellState) : Origin :=
  match shell.stream? 0 with
  | some (.input _ origin) => origin
  | some (.file _) => .file
  | _ => .device

/-- The text at the input, or why it cannot be read. Of a live stream it is what stands there, if that is
enough. -/
def readInput (demand : Filters.Demand) : Run (Except SystemError Text) := do
  let shell ← get
  match shell.stream? 0, shell.source? 0 with
  | some .directory, _ => pure (.error .isDirectory)
  | _, none => pure (.error .badStream)
  | _, some _ =>
      match ← liveText with
      | some text =>
          if demand.isEnough text then
            leaveInput (demand.rest shell.inputOrigin text)
            pure (.ok text)
          else blocked
      | none => do
          let text ← heldText
          leaveInput (demand.rest shell.inputOrigin text)
          pure (.ok text)

/-- What a file gives to a program that reads it; a dash is the input. -/
def readGiven (demand : Filters.Demand) (file : Text) : Run Filters.Given := do
  let shell ← get
  if file = ['-'] ∨ deviceStream? file = some 0 then
    pure ⟨file, shell.inputOrigin, ← readInput demand⟩
  else if isNullDevice file then pure ⟨file, .device, .ok []⟩
  else if isZeroDevice file then
    if demand.isEnough (flooded [] zeroUnit) then pure ⟨file, .device, .ok (flooded [] zeroUnit)⟩ else blocked
  else pure ⟨file, .file, shell.readable file⟩

/-- The options of the program that joins files. -/
def joiningOptions : OptionTable where
  plain := ['A', 'b', 'e', 'E', 'n', 's', 't', 'T', 'u', 'v']
  valued := []
  names := [("show-all", 'A'), ("number-nonblank", 'b'), ("show-ends", 'E'), ("number", 'n'),
    ("squeeze-blank", 's'), ("show-tabs", 'T'), ("show-nonprinting", 'v')]

/-- How a character is shown if it cannot be seen. -/
def visible (c : Char) : Text :=
  let below (code : Nat) : Text :=
    if code < 32 then ['^', Char.ofNat (code + 64)]
    else if code = 127 then ['^', '?']
    else [Char.ofNat code]
  if c.toNat < 128 then below c.toNat else ['M', '-'] ++ below (c.toNat - 128)

/-- How a line is shown without its line feed. -/
def shownLine (options : Arguments) (line : Text) : Text :=
  let hasAny (letters : Text) : Bool := letters.any options.has
  let (line, ending) :=
    if hasAny ['A', 'e', 'E'] && line.getLast? = some '\n' then
      if !hasAny ['A', 'e', 't', 'v'] && line.dropLast.getLast? = some '\r' then
        (line.dropLast.dropLast, "^M$\n".toList)
      else (line.dropLast, "$\n".toList)
    else if line.getLast? = some '\n' then (line.dropLast, ['\n'])
    else (line, [])
  let shown := line.flatMap fun c =>
    if c = '\t' then (if hasAny ['A', 't', 'T'] then visible c else [c])
    else if hasAny ['A', 'e', 't', 'v'] then visible c
    else [c]
  shown ++ ending

/-- The number of the last line that has one, how many blank lines stand behind one another at the end, and
whether the next character begins a line. -/
structure Numbering where
  number : Nat
  blanks : Nat
  isStart : Bool

/-- How lines are shown, with numbers if this is asked for. -/
def shownLines (options : Arguments) : Numbering → List Text → Text × Numbering
  | state, [] => ([], state)
  | state, line :: rest =>
      let isBlank := state.isStart && line = ['\n']
      let ends := line.getLast? = some '\n'
      if isBlank && options.has 's' && 0 < state.blanks then
        shownLines options { state with blanks := state.blanks + 1 } rest
      else
        let isNumbered := state.isStart && (options.has 'n' || options.has 'b') && !(options.has 'b' && isBlank)
        let number := if isNumbered then state.number + 1 else state.number
        let front := if isNumbered then Filters.inColumn 6 number ++ ['\t'] else []
        let (text, state) :=
          shownLines options ⟨number, if isBlank then state.blanks + 1 else 0, ends⟩ rest
        (front ++ shownLine options line ++ text, state)

/-- Whether a file is the one into which the output goes, and holds something. -/
def ShellState.isOutput (shell : ShellState) (file : Text) : Bool :=
  let place? (stream : Option Stream) : Option Place := match stream with
    | some (.file number) => (shell.openFiles.lookup number).bind (·.place)
    | _ => none
  let input := if file = ['-'] then place? (shell.stream? 0) else (shell.resolve file).toOption
  let isShort := if file = ['-'] then ((shell.source? 0).map (·.text)) = some [] else shell.fileText? file = some []
  match place? (shell.stream? 1), input with
  | some output, some input => (shell.placesOf output).contains input && !isShort
  | _, _ => false

/-- Hands files on to the output one after the other as they are. -/
def relayFiles (called : Text) : List Text → (status : Nat) → Run Unit
  | [], status => finish status
  | name :: rest, status => do
      let shell ← get
      if isZeroDevice name then handOn (.flood zeroUnit)
      else if shell.isOutput name then
        tell (called ++ ": ".toList ++ name ++ ": input file is output file\n".toList)
        relayFiles called rest 1
      else if (name = ['-'] ∨ deviceStream? name = some 0) ∧ (shell.source? 0).isSome = true then
        relay
        relayFiles called rest status
      else
        match (← readGiven {} name).text with
        | .ok text =>
            write text
            relayFiles called rest status
        | .error cause =>
            complainOf called name cause 1
            relayFiles called rest 1

/-- Shows files one after the other, as options ask. -/
def showFiles (called : Text) (options : Arguments) : Numbering → List Text → (status : Nat) → Run Unit
  | _, [], status => finish status
  | state, name :: rest, status => do
      match (← readGiven {} name).text with
      | .ok text =>
          let (text, state) := shownLines options state (Filters.fullLines text)
          write text
          showFiles called options state rest status
      | .error cause =>
          complainOf called name cause 1
          showFiles called options state rest 1

/-- The program that joins files. -/
def runCat (called : Text) (arguments : List Text) : Run Unit :=
  understood called 1 (joiningOptions.read arguments) fun options => do
    let files := if options.operands = [] then [['-']] else options.operands
    if options.options.all fun entry => entry.1 = 'u' then relayFiles called files 0
    else showFiles called options ⟨0, 0, true⟩ files 0

/-- The options of the program that also writes its input into files. -/
def alsoOptions : OptionTable where
  plain := ['a', 'i', 'p']
  valued := []
  optional := ['↯']
  names := [("append", 'a'), ("ignore-interrupts", 'i'), ("output-error", '↯')]

/-- The program that also writes its input into files. -/
def runTee (called : Text) (arguments : List Text) : Run Unit :=
  understood called 1 (alsoOptions.read arguments) fun options => do
    let mode := if options.has 'a' then WritingMode.behind else .anyway
    let streams ← options.operands.mapM fun name => do
      match ← openForWriting mode name with
      | .ok stream => pure (some stream)
      | .error cause => do
          complainOf called name cause 1
          pure none
    let text ← heldText
    streams.forM fun stream => if stream.isSome then writeTo stream text else pure ()
    relay
    if streams.any (·.isNone) then finish 1

end SecureShell.Rehearsal.Shell
