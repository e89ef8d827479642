/-
Module: SecureShell.Rehearsal.Shell.State
Purpose: What the commands of a script share, and what a command can do to it. A script is to carry a
  stream between a caller and the peer: its input and output lead to the caller at first. It runs until it
  ends, until the peer is connected to the caller, or until nothing more can happen.
Main exports: Source, Stream, Call, Parameter, Job, ShellState, Stop, Run
-/
import SecureShell.FileSystem.Tree
import SecureShell.Rehearsal.Preamble
import SecureShell.Rehearsal.Shell.Choices
import SecureShell.Rehearsal.Shell.Complaint
import SecureShell.Rehearsal.Shell.Fields
import SecureShell.Rehearsal.Shell.Octets
import SecureShell.Text.Span

namespace SecureShell.Rehearsal.Shell

open FileSystem (Tree Place Node)

/-- What comes behind a text that can be read: nothing, what the caller or a peer sends, silence for ever, what
is left of such a stream when its greeting has been taken from it, or the same text again and again. -/
inductive Supply where
  | nothing
  | caller
  | peer
  | silence
  | remains
  | flood (unit : Text)
deriving DecidableEq, Repr

/-- A source of input: a text, and what comes behind it. -/
structure Source where
  text : Text
  supply : Supply
deriving DecidableEq, Repr

/-- What kind of thing is read. -/
inductive Origin where
  | file
  | pipe
  | device
deriving DecidableEq, Repr

/-- A file that has been opened: the place at which it is found, or what it holds since it is found nowhere any
more, how much of it is passed, and whether it can be read and written, perhaps only at its end. -/
structure OpenFile where
  place : Option Place
  content : Bytes
  passed : Nat
  isRead : Bool
  isWritten : Bool
  appends : Bool
deriving DecidableEq, Repr

/-- Where a stream leads to. Input comes from a source that has a number, and an open file has one as well, so
that streams can share them. Output may also go to the caller, be collected under a number or be lost. A
directory can neither be read nor written. -/
inductive Stream where
  | input (number : Nat) (origin : Origin)
  | file (number : Nat)
  | toCaller
  | collecting (number : Nat)
  | directory
  | nowhere
deriving DecidableEq, Repr

/-- A command that connects to the peer: its words, and the directory in which it runs. -/
structure Call where
  words : List Text
  directory : Path
deriving DecidableEq, Repr

/-- A parameter with its value, if it is set. Programs see it if it is exported; one that is fixed keeps its
value. -/
structure Parameter where
  value : Option Text
  exported : Bool
  fixed : Bool
deriving DecidableEq, Repr

/-- The time of a script, in whole milliseconds. -/
abbrev Milliseconds := Nat

/-- The milliseconds after which a time span is over: one that has begun counts. -/
def ticks (span : Span) : Milliseconds :=
  (span.nanoseconds + 999999) / 1000000

/-- A command that has been left in the background: the number of its process, its status and when it ends.
`keepsOutput` tells whether it keeps the output to the caller open until then, and `isOrphan` whether
another shell has started it, so that nobody can wait for it. -/
structure Job where
  process : Nat
  status : Nat
  ending : Milliseconds
  keepsOutput : Bool
  isOrphan : Bool
deriving DecidableEq, Repr

/-- What is known about a file besides what it holds: the rights to it, and when it has been changed, counted from
the beginning of the script. -/
structure Details where
  mode : Nat
  time : Int
deriving DecidableEq, Repr

/-- What the commands of a script share. `held` tells whether a process that waits for the running command
keeps the output to the caller open, and `inBackground`, whether nobody waits for it; `isLast`, whether
nothing comes behind the running command, so that it takes the place of its shell; `tested`, whether its
status is asked for; `failsToFlow`, whether the running command has used a stream that leads nowhere;
`details` tells more about files and directories where it is not the usual, and `twins` the places of
each file that has several. `written` is the name of the directory by which the shell has come there, `depth`
tells how many functions run within one another, `line` gives the number of the line that runs, and `speaker`
the command of the shell that complaints come from. `process` is the number of the
shell as its scripts see it, and `isOwner` tells whether that process is this shell and not one above it,
whose traps are `ownerTraps`. The traps say what is run on which signal, and `pending` what is still to be
run on those that have come. Where options of the arguments are read one after the other, `nextArgument` is
the number of the next one, and `argumentOffset` tells how much of the one before has been read. `budget`
is how many more commands may run before the script counts as one that never ends, and `started` how many
programs have been started. -/
structure ShellState where
  tree : Tree
  details : List (Place × Details)
  twins : List (List Place)
  place : Place
  written : Text
  parameters : List (Text × Parameter)
  saved : List (Text × Option Parameter)
  savedOptions : Option Options
  depth : Nat
  line : Unit → Nat
  speaker : Option Text
  arguments : List Text
  nextArgument : Nat
  argumentOffset : Option Nat
  name : Text
  functions : List (Text × Script)
  aliases : List (Text × Text)
  options : Options
  mask : Nat
  process : Nat
  isOwner : Bool
  traps : List (Text × Text)
  ownerTraps : List (Text × Text)
  pending : List Text
  jobs : List Job
  lastJob : Option Nat
  nextProcess : Nat
  loops : Nat
  isLast : Bool
  tested : Bool
  failsToFlow : Bool
  held : Bool
  inBackground : Bool
  streams : List (Nat × Stream)
  sources : List (Nat × Source)
  openFiles : List (Nat × OpenFile)
  status : Nat
  substituted : Option Nat
  collected : List (Nat × List Text)
  nextNumber : Nat
  calls : List Call
  preamble : Preamble
  budget : Nat
  started : Nat
  slept : Milliseconds
  limit : Milliseconds

/-- Why a command does not come to its end: the shell is left, as it is told or because of a mistake; a
function or a loop is left; the peer is connected to the caller; time runs out; the stream of the caller
breaks; the process of the shell is killed; or the command hands a stream on for ever to those who collect
its output. -/
inductive Stop where
  | exited (status : Nat)
  | mistaken
  | returned (status : Nat)
  | broken (loops : Nat)
  | continued (loops : Nat)
  | connected
  | stalled
  | hungUp
  | killed (signal : Nat)
  | passing (supply : Supply) (number : Nat)
deriving DecidableEq, Repr

/-- What a command does. -/
abbrev Run := EStateM Stop ShellState

namespace ShellState

/-- Whether any stream leads to the caller. -/
def speaksToCaller (shell : ShellState) : Bool :=
  shell.streams.any (·.2 = .toCaller)

/-- A parameter that is known. -/
def parameter? (shell : ShellState) (name : Text) : Option Parameter :=
  shell.parameters.lookup name

/-- The value of a parameter that is set. -/
def value? (shell : ShellState) (name : String) : Option Text :=
  (shell.parameter? name.toList).bind (·.value)

/-- The shell with a parameter set or unset. -/
def bind (shell : ShellState) (name : Text) (parameter : Option Parameter) : ShellState :=
  let changed := match parameter, shell.parameter? name with
    | none, _ => shell.parameters.filter (·.1 ≠ name)
    | some parameter, none => shell.parameters ++ [(name, parameter)]
    | some parameter, some _ => shell.parameters.map fun entry =>
        if entry.1 = name then (name, parameter) else entry
  { shell with parameters := changed }

/-- How many groups of parameters there are. -/
def groupCount : Nat := 39

/-- The number of the group that a name belongs to. -/
def groupOf (name : Text) : Nat :=
  (name.foldl (fun sum c => sum + c.toNat) ((name.headD '\x00').toNat * 16)) % groupCount

/-- The parameters that programs see, group by group. -/
def environment (shell : ShellState) : List (Text × Parameter) :=
  (shell.parameters.filter fun entry => entry.2.exported && entry.2.value.isSome).mergeSort
    fun left right => groupOf left.1 ≤ groupOf right.1

/-- The shell with a new value for a parameter. -/
def withValue (shell : ShellState) (name value : Text) : ShellState :=
  let old := shell.parameter? name
  shell.bind name
    (some ⟨some value, old.any (·.exported) || shell.options.exportsAll, old.any (·.fixed)⟩)

/-- The separators at which fields are split. -/
def separators (shell : ShellState) : Text :=
  (shell.value? "IFS").getD usualSeparators

/-- What a stream leads to. -/
def stream? (shell : ShellState) (number : Nat) : Option Stream :=
  shell.streams.lookup number

/-- The shell with a stream redirected or closed. -/
def withStream (shell : ShellState) (number : Nat) (stream : Option Stream) : ShellState :=
  { shell with
    streams := (stream.map fun stream => (number, stream)).toList
      ++ shell.streams.filter (·.1 ≠ number) }

/-- What an open file holds. -/
def contentOf (shell : ShellState) (file : OpenFile) : Bytes :=
  match file.place.bind shell.tree.node? with
  | some (.file content) => content
  | _ => file.content

/-- What is left to read of a stream. -/
def sourceOf? (shell : ShellState) : Stream → Option Source
  | .input number _ => shell.sources.lookup number
  | .file number =>
      ((shell.openFiles.lookup number).filter (·.isRead)).map fun file =>
        ⟨ofBytes ((shell.contentOf file).drop file.passed), .nothing⟩
  | _ => none

/-- What is left to read of the stream of a number. -/
def source? (shell : ShellState) (number : Nat) : Option Source :=
  (shell.stream? number).bind shell.sourceOf?

/-- The shell in which a source is changed. -/
def withSource (shell : ShellState) (number : Nat) (source : Source) : ShellState :=
  { shell with sources := (number, source) :: shell.sources.filter (·.1 ≠ number) }

/-- The shell in which an open file is changed. -/
def withOpenFile (shell : ShellState) (number : Nat) (file : OpenFile) : ShellState :=
  { shell with openFiles := (number, file) :: shell.openFiles.filter (·.1 ≠ number) }

/-- The shell in which less is left to read at the input. -/
def withInput (shell : ShellState) (source : Source) : ShellState :=
  match shell.stream? 0 with
  | some (.input number _) => shell.withSource number source
  | some (.file number) =>
      match shell.openFiles.lookup number with
      | some file =>
          let passed := (shell.contentOf file).length - source.text.length
          shell.withOpenFile number { file with passed := max file.passed passed }
      | none => shell
  | _ => shell

/-- The directory of the shell. -/
def directory (shell : ShellState) : Path :=
  Tree.Place.path shell.place

/-- The place that a name leads to, through links. -/
def resolve (shell : ShellState) (name : Text) : Except SystemError Place :=
  shell.tree.resolve shell.place true ⟨name⟩

/-- What a name leads to, through links. -/
def node? (shell : ShellState) (name : Text) : Option Node :=
  match shell.resolve name with
  | .ok place => shell.tree.node? place
  | .error _ => none

/-- The names of parts of a path that name no file below a directory. -/
def nearNames : List Text := [[], ['.'], ['.', '.']]

/-- The path of what is above the last part of a path. -/
def pathAbove (name : Text) : Text :=
  let parts := Text.segments '/' name
  let above := List.intercalate ['/'] parts.dropLast
  if parts.length = 1 then ['.'] else if above = [] then ['/'] else above

/-- The place where something of a name can be made; a link of that name is not followed. -/
def newPlace (shell : ShellState) (name : Text) : Except SystemError Place := do
  let above ← shell.resolve (if name = [] then [] else pathAbove name)
  let last := (Text.segments '/' name).getLastD []
  if shell.tree.node? above ≠ some .directory then throw .notDirectory
  else if last = [] then throw .isDirectory
  else if nearNames.contains last || Tree.isRemoved above then throw .notFound
  else if last.length > Tree.nameLimit then throw .nameTooLong
  else pure (above ++ [last])

/-- The place where a file of a name is or can be made. A link of that name is followed even if it leads
nowhere. `links` bounds how many are followed. -/
def placeThrough (shell : ShellState) : (links : Nat) → (name : Text) → Except SystemError Place
  | 0, _ => .error .tooManyLinks
  | links + 1, name =>
      match shell.resolve name with
      | .ok place => .ok place
      | .error .notFound => do
          let place ← shell.newPlace name
          match shell.tree.node? place with
          | some (.link target) =>
              shell.placeThrough links
                (if target.head? = some '/' then target else pathAbove name ++ '/' :: target)
          | _ => pure place
      | .error cause => .error cause

/-- The place where a file of a name is or can be made. -/
def placeFor (shell : ShellState) (name : Text) : Except SystemError Place :=
  shell.placeThrough Tree.linkLimit name

/-- Whether a name is taken; a link at the end is not followed. -/
def isTaken (shell : ShellState) (name : Text) : Bool :=
  (shell.tree.resolve shell.place false ⟨name⟩).isOk

/-- All places of the file at a place. -/
def placesOf (shell : ShellState) (place : Place) : List Place :=
  (shell.twins.find? (·.contains place)).getD [place]

/-- The usual rights of what is at a place, before any are taken away. -/
def usualMode (node : Node) : Nat :=
  match node with
  | .file _ => 0o644
  | .directory => 0o755
  | .link _ => 0o777
  | .socket => 0o755

/-- When something is changed that is changed now. What was there at the beginning is older. -/
def now (shell : ShellState) : Int :=
  shell.slept + 1

/-- What is known about what is at a place. -/
def detailsOf (shell : ShellState) (place : Place) : Details :=
  (shell.details.lookup place).getD ⟨((shell.tree.node? place).map usualMode).getD 0, 0⟩

/-- The rights of what is at a place. -/
def mode (shell : ShellState) (place : Place) : Nat :=
  (shell.detailsOf place).mode

/-- The shell that knows something else about what is at a place, the same at all places of a file. -/
def withDetails (shell : ShellState) (place : Place) (details : Details) : ShellState :=
  let places := shell.placesOf place
  { shell with
    details := places.map (fun place => (place, details))
      ++ shell.details.filter fun entry => !places.contains entry.1 }

/-- The shell with rights for what is at a place. -/
def withMode (shell : ShellState) (place : Place) (mode : Nat) : ShellState :=
  shell.withDetails place { shell.detailsOf place with mode }

/-- The shell with a new content for a file, at all its places. -/
def withFile (shell : ShellState) (place : Place) (content : Bytes) : ShellState :=
  let changed := shell.withDetails place { shell.detailsOf place with time := shell.now }
  { changed with
    tree := (shell.placesOf place).foldl (fun tree place => tree.put place (.file content)) shell.tree }

/-- Whether a file may be run. -/
def isRunnable (shell : ShellState) (place : Place) : Bool :=
  Nat.land (shell.mode place) 0o111 ≠ 0

/-- An open file when what is at a place and below it is taken away: it is found at another of its places, or
nowhere any more. -/
def withoutPlace (shell : ShellState) (place : Place) (file : OpenFile) : OpenFile :=
  match file.place with
  | none => file
  | some found =>
      if place.isPrefixOf found then
        { file with
          place := (shell.placesOf found).find? fun other => !place.isPrefixOf other
          content := shell.contentOf file }
      else file

/-- The shell without what is at a place and below it. -/
def withoutNode (shell : ShellState) (place : Place) : ShellState :=
  { shell with
    tree := shell.tree.erase place
    place := if place.isPrefixOf shell.place then Tree.removedFrom place.dropLast else shell.place
    openFiles := shell.openFiles.map fun entry => (entry.1, shell.withoutPlace place entry.2)
    details := shell.details.filter fun entry => !place.isPrefixOf entry.1
    twins := (shell.twins.map fun places => places.filter fun other => !place.isPrefixOf other).filter
      (1 < ·.length) }

/-- The shell in which what is at a place is at another one, with all that is below it. -/
def relocated (shell : ShellState) (old new : Place) : ShellState :=
  let cleared := shell.withoutNode new
  let moved (place : Place) : Place :=
    if old.isPrefixOf place then new ++ place.drop old.length else place
  { cleared with
    tree := ⟨cleared.tree.entries.map fun entry => (moved entry.1, entry.2)⟩
    place := moved cleared.place
    openFiles := cleared.openFiles.map fun entry =>
      (entry.1, { entry.2 with place := entry.2.place.map moved })
    details := cleared.details.map fun entry => (moved entry.1, entry.2)
    twins := cleared.twins.map fun places => places.map moved }

/-- The shell with a new node at a place, with the rights that the mask leaves to it. -/
def withNode (shell : ShellState) (place : Place) (node : Node) : ShellState :=
  let rights := match node with
    | .file _ => 0o666
    | _ => 0o777
  let mode := match node with
    | .link _ => 0o777
    | _ => Nat.xor rights (Nat.land rights shell.mask)
  let grown := shell.withoutNode place
  { grown with
    tree := grown.tree.put place node
    details := (place, ⟨mode, shell.now⟩) :: grown.details }

/-- When the last of the commands in the background that keep the output open comes to its end. -/
def lingering (shell : ShellState) : Milliseconds :=
  (shell.jobs.filter (·.keepsOutput)).foldl (fun latest job => max latest job.ending) 0

end ShellState

/-- Does not come back: the running command neither ends nor says anything. The caller notices only if
nobody keeps its stream open. -/
def blocked {α : Type} : Run α := do
  let shell ← get
  throw (if shell.held || shell.speaksToCaller then .stalled else .hungUp)

/-- The status of a shell that is left because of a mistake. -/
def mistakeStatus : Nat := 2

/-- The status with which a shell comes to its end by itself, if it does. -/
def Stop.shellStatus? : Stop → Option Nat
  | .exited status => some status
  | .returned status => some status
  | .mistaken => some mistakeStatus
  | _ => none

/-- Sets the status. -/
def finish (status : Nat) : Run Unit :=
  modify fun shell => { shell with status }

/-- The name of the parameter that counts the arguments whose options have been read. -/
def argumentCounter : Text := "OPTIND".toList

/-- The shell in which arguments are read for options from the one of a number on. -/
def ShellState.readingFrom (shell : ShellState) (number : Nat) : ShellState :=
  { shell with nextArgument := number, argumentOffset := none }

/-- The number that digits spell. -/
def count? (digits : Text) : Option Nat :=
  if digits ≠ [] ∧ digits.all Char.isDigit = true then some (Nat.ofDigitChars 10 digits 0) else none

/-- How long the value of a parameter may be; a script that makes a longer one does not come to its end. -/
def valueLimit : Nat := 1000000

/-- A stream that leads to a new source. -/
def newInput (text : Text) (supply : Supply) (origin : Origin) : Run Stream := do
  let shell ← get
  set { shell.withSource shell.nextNumber ⟨text, supply⟩ with nextNumber := shell.nextNumber + 1 }
  pure (.input shell.nextNumber origin)

/-- A stream that leads to a file which has been opened. -/
def newOpenFile (file : OpenFile) : Run Stream := do
  let shell ← get
  set { shell.withOpenFile shell.nextNumber file with nextNumber := shell.nextNumber + 1 }
  pure (.file shell.nextNumber)

/-- The shell without the sources and open files that are newer than an earlier state and to which no stream
leads. -/
def ShellState.forgetting (shell before : ShellState) : ShellState :=
  let isUsed (number : Nat) : Bool := shell.streams.any fun entry => match entry.2 with
    | .input used _ => used = number
    | .file used => used = number
    | _ => false
  let isKept (number : Nat) : Bool := number < before.nextNumber || isUsed number
  { shell with
    sources := shell.sources.filter fun entry => isKept entry.1
    openFiles := shell.openFiles.filter fun entry => isKept entry.1 }

/-- Notes that the running command has used a stream that leads nowhere. -/
def noteFailure : Run Unit :=
  modify fun shell => { shell with failsToFlow := true }

/-- Runs a command, which has a status of its own if it uses a stream that leads nowhere. -/
def noticing (status : Nat) (action : Run Unit) : Run Unit := do
  let before := (← get).failsToFlow
  modify fun shell => { shell with failsToFlow := false }
  action
  let shell ← get
  set { shell with
    failsToFlow := before
    status := if shell.failsToFlow then status else shell.status }

/-- Bytes written over others behind so many of them. What is missing before them is filled with zeros. -/
def writtenOver (old : Bytes) (passed : Nat) (new : Bytes) : Bytes :=
  old.take passed ++ List.replicate (passed - old.length) 0 ++ new ++ old.drop (passed + new.length)

/-- The shell in which bytes have been written into an open file. -/
def ShellState.writing (shell : ShellState) (number : Nat) (file : OpenFile) (bytes : Bytes) : ShellState :=
  let old := shell.contentOf file
  let passed := if file.appends then old.length else file.passed
  let content := writtenOver old passed bytes
  let shell := shell.withOpenFile number { file with content, passed := passed + bytes.length }
  match file.place with
  | some place => shell.withFile place content
  | none => shell

/-- Writes to where a stream leads. What the caller cannot take for lines in front of a greeting breaks its
stream. -/
def writeTo (stream : Option Stream) (text : Text) : Run Unit := do
  if text = [] then return
  let shell ← get
  match stream with
  | some .toCaller =>
      let preamble := shell.preamble.feed (bytesOf text)
      set { shell with preamble }
      if preamble = .broken then throw .hungUp
  | some (.collecting number) =>
      let old := (shell.collected.lookup number).getD []
      set { shell with
        collected := (number, text :: old) :: shell.collected.filter (·.1 ≠ number) }
  | some (.file number) =>
      match (shell.openFiles.lookup number).filter (·.isWritten) with
      | some file => set (shell.writing number file (bytesOf text))
      | none => noteFailure
  | some .nowhere => pure ()
  | _ => noteFailure

/-- Whether something can be written to where a stream leads. -/
def ShellState.takesText (shell : ShellState) : Stream → Bool
  | .toCaller => true
  | .collecting _ => true
  | .nowhere => true
  | .file number => (shell.openFiles.lookup number).any (·.isWritten)
  | _ => false

/-- Writes to the output. -/
def write (text : Text) : Run Unit := do
  writeTo ((← get).stream? 1) text

/-- Writes a message, if there is a stream for messages. -/
def tell (text : Text) : Run Unit := do
  let shell ← get
  if let some stream := shell.stream? 2 then
    if shell.takesText stream then writeTo (some stream) text

/-- Writes a complaint behind the name of the shell, the number of the line and the command that it comes
from. -/
def complain (complaint : Complaint) : Run Unit := do
  let shell ← get
  let named (name : Text) : Text := name ++ ": ".toList
  tell (named shell.name ++ named (Text.decimal (shell.line ())) ++ (shell.speaker.map named).getD []
    ++ complaint.message ++ ['\n'])

/-- Leaves the shell because of a mistake. -/
def mistake {α : Type} (complaint : Complaint) : Run α := do
  complain complaint
  throw .mistaken

/-- Sets a parameter; one that is fixed cannot be set. -/
def assign (name value : Text) : Run Unit := do
  let shell ← get
  if (shell.parameter? name).any (·.fixed) then mistake (.fixedName name)
  else if valueLimit < value.length then blocked
  else
    set (shell.withValue name value)
    if name = argumentCounter then modify (·.readingFrom ((count? value).getD 1))

/-- How much of a flood is looked at. -/
def floodLength : Nat := 65536

/-- A text with so much of a flood behind it that it is as long as this is looked at. -/
def flooded (text unit : Text) : Text :=
  let count := (floodLength - text.length + unit.length - 1) / max 1 unit.length
  text ++ (List.replicate count unit).flatten

/-- Hands on to the output what comes in for ever: what the peer or the caller sends, or a flood, by which the
stream of the caller breaks if it cannot be taken for lines. -/
def handOn {α : Type} (supply : Supply) : Run α := do
  let shell ← get
  match shell.stream? 1, supply with
  | some .toCaller, .flood unit => do
      writeTo (some .toCaller) (flooded [] unit)
      blocked
  | some .toCaller, supply =>
      throw (if supply = .peer ∧ shell.preamble.isClear = true then .connected else .hungUp)
  | some (.collecting number), supply => throw (.passing supply number)
  | _, _ => blocked

/-- Lets time pass. -/
def pause (span : Milliseconds) : Run Unit := do
  let shell ← get
  let slept := shell.slept + span
  set { shell with slept }
  if 0 < slept ∧ shell.limit ≤ slept then blocked

/-- Runs a command and tells why it did not come to its end, if it did not. -/
def attempt (action : Run Unit) : Run (Option Stop) :=
  tryCatch (do action; pure none) fun stop => pure (some stop)

/-- Does something and takes back afterwards a part of what it has done, also if it does not come to its
end. -/
def takingBack (restore : ShellState → ShellState) (action : Run Unit) : Run Unit := do
  let stop ← attempt action
  modify restore
  match stop with
  | none => pure ()
  | some stop => throw stop

/-- Does something on behalf of a command of the shell, from which complaints come meanwhile. -/
def speaking (name : Text) (action : Run Unit) : Run Unit := do
  let speaker := (← get).speaker
  modify fun shell => { shell with speaker := some name }
  takingBack (fun shell => { shell with speaker }) action

/-- Runs a command behind which something else comes. -/
def notLast (action : Run Unit) : Run Unit := do
  let isLast := (← get).isLast
  modify fun shell => { shell with isLast := false }
  takingBack (fun shell => { shell with isLast }) action

/-- Runs a command whose status is asked for. -/
def testing (action : Run Unit) : Run Unit := do
  let tested := (← get).tested
  modify fun shell => { shell with tested := true }
  takingBack (fun shell => { shell with tested }) action

/-- Leaves the shell if a command has failed and failures are not allowed. -/
def checkFailure : Run Unit := do
  let shell ← get
  if shell.options.stopsOnFailure && !shell.tested && shell.status ≠ 0 then
    throw (.exited shell.status)

/-- What a shell keeps of a shell that has run beside it: everything but what is its own. -/
def ShellState.after (shell other : ShellState) : ShellState :=
  let isOrphan (job : Job) : Bool :=
    ((shell.jobs.find? (·.process = job.process)).map (·.isOrphan)).getD true
  { shell with
    tree := other.tree
    details := other.details
    twins := other.twins
    sources := other.sources
    openFiles := other.openFiles
    collected := other.collected
    nextNumber := other.nextNumber
    calls := other.calls
    preamble := other.preamble
    budget := other.budget
    started := other.started
    slept := other.slept
    pending := other.pending
    failsToFlow := other.failsToFlow
    jobs := other.jobs.map fun job => { job with isOrphan := isOrphan job }
    nextProcess := other.nextProcess
    status := other.status }

/-- The traps that a shell hands down: signals that it ignores are ignored below it. -/
def ShellState.inheritedTraps (shell : ShellState) : List (Text × Text) :=
  shell.traps.filter (·.2 = [])

/-- A shell of its own that is made from this one. -/
def ShellState.split (shell : ShellState) : ShellState :=
  { shell with
    traps := shell.inheritedTraps
    isOwner := false
    ownerTraps := if shell.isOwner then shell.traps else shell.ownerTraps
    jobs := shell.jobs.map fun job => { job with isOrphan := true }
    saved := [], savedOptions := none }

/-- Runs a command in a shell of its own, made from this one; the end of that shell is all that is seen of
it, unless nothing more can happen. -/
def inShell (own : ShellState → ShellState) (action : Run Unit) : Run Unit := do
  let shell ← get
  set (own shell.split)
  let stop ← attempt action
  modify shell.after
  match stop, stop.bind Stop.shellStatus? with
  | none, _ => finish ((← get).status % 256)
  | _, some status => finish (status % 256)
  | some (.broken _), _ => pure ()
  | some (.continued _), _ => pure ()
  | some stop, none => throw stop

/-- Collects what a command writes, and tells why the command did not come to its end, if it did not. -/
def collect (action : Run Unit) : Run (Option Stop × Nat × Text) := do
  let shell ← get
  let number := shell.nextNumber
  set { shell.withStream 1 (some (.collecting number)) with nextNumber := number + 1 }
  let stop ← attempt action
  let texts := ((← get).collected.lookup number).getD []
  modify fun later => { later.withStream 1 (shell.stream? 1) with
    collected := later.collected.filter (·.1 ≠ number) }
  pure (stop, number, texts.reverse.flatten)

end SecureShell.Rehearsal.Shell
