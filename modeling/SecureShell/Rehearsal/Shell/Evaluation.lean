/-
Module: SecureShell.Rehearsal.Shell.Evaluation
Purpose: How each kind of command is run, and what becomes of a script that is to carry a stream between a
  caller and the peer. The script may connect them, after which nothing else matters; it may keep silent
  until time is up; or it ends, or speaks so that the caller hangs up.
Main exports: runCommand, run, Ending, Performance, perform
-/
import SecureShell.Rehearsal.Shell.Builtins
import SecureShell.Rehearsal.Shell.Programs

namespace SecureShell.Rehearsal.Shell

open FileSystem (Tree Place)

/-- Sets parameters one after the other, which programs see from now on if this is asked, and tells their
values. -/
def assignAll (collector : Collector) (exported : Bool) (assignments : List Assignment) :
    Run (List (Text × Text)) :=
  assignments.mapM fun assigned => do
    let value ← fillAssignment collector assigned.value
    assign assigned.name value
    if exported then
      modify fun shell => shell.bind assigned.name
        ((shell.parameter? assigned.name).map fun parameter => { parameter with exported := true })
    pure (assigned.name, value)

/-- A shell in which parameters are as they were before. -/
def ShellState.unassigned (shell before : ShellState) : List Assignment → ShellState
  | [] => shell
  | first :: rest =>
      (shell.bind first.name (before.parameter? first.name)).unassigned before rest

/-- How many functions may run within one another. -/
def depthLimit : Nat := 1000

/-- Runs a command that has been defined. It has arguments of its own, and its local parameters are taken
back at its end. -/
def callFunction (run : Runner) (body : Script) (arguments : List Text) : Run Unit := do
  let before ← get
  if before.depth = depthLimit then mistake .tooDeep
  set { before with
    arguments
    nextArgument := 1
    argumentOffset := none
    saved := []
    savedOptions := none
    depth := before.depth + 1
    loops := 0 }
  let restore (later : ShellState) : ShellState :=
    let unbound := later.saved.foldl (fun shell entry => shell.bind entry.1 entry.2) later
    { unbound with
      options := later.savedOptions.getD later.options
      savedOptions := before.savedOptions
      arguments := before.arguments
      nextArgument := before.nextArgument
      argumentOffset := before.argumentOffset
      saved := before.saved
      depth := before.depth
      loops := before.loops }
  takingBack restore (do
    match ← attempt (notLast (run body)) with
    | some (.returned status) => finish status
    | some stop => throw stop
    | none => pure ())

/-- What the name of a command stands for. -/
inductive Meaning where
  | keyword
  | alias (text : Text)
  | function
  | builtin (isSpecial : Bool)
  | path (found : Text)
deriving DecidableEq, Repr

/-- The names of the commands that are part of the shell besides those that have a table. -/
def furtherNames : List Text :=
  ["command", "type"].map String.toList

/-- What a name stands for as a command, if it stands for anything. -/
def meaning? (run : Runner) (shell : ShellState) (name : Text) : Option Meaning :=
  if reservedWords.contains name then some .keyword
  else
    match shell.aliases.lookup name with
    | some text => some (.alias text)
    | none =>
        if isSpecial name then some (.builtin true)
        else if (shell.functions.lookup name).isSome then some .function
        else if (builtin? run name).isSome || furtherNames.contains name then some (.builtin false)
        else if '/' ∈ name ∧ (shell.resolve name).isOk = true then some (.path name)
        else (programPath? shell name).map .path

/-- The name under which something can be called again. -/
def Meaning.callable (name : Text) : Meaning → Text
  | .alias text => "alias ".toList ++ aliasLine (name, text)
  | .path found => found ++ ['\n']
  | _ => name ++ ['\n']

/-- A line that tells what a name stands for. -/
def Meaning.described (name : Text) (meaning : Meaning) : Text :=
  let description := match meaning with
    | .keyword => "a shell keyword".toList
    | .alias text => "an alias for ".toList ++ text
    | .function => "a shell function".toList
    | .builtin true => "a special shell builtin".toList
    | .builtin false => "a shell builtin".toList
    | .path found => found
  name ++ " is ".toList ++ description ++ ['\n']

/-- Tells what names stand for, or that they stand for nothing. -/
def describeCommands (run : Runner) (names : List Text) : Run Unit := do
  let shell ← get
  let known := names.map fun name => (name, meaning? run shell name)
  write (known.flatMap fun (name, meaning) => match meaning with
    | some meaning => meaning.described name
    | none => name ++ ": not found\n".toList)
  finish (if known.all (·.2.isSome) then 0 else 127)

/-- Tells how to call a command, if there is one of a name. -/
def tellCallable (run : Runner) (name : Text) : Run Unit := do
  match meaning? run (← get) name with
  | some meaning => do
      write (meaning.callable name)
      finish 0
  | none => finish 127

/-- A command as it is meant behind words that only tell how to run it: whether such words stand in front, and
whether they ask for the usual search path and not for that of the shell. -/
structure Order where
  fields : List Text
  isPlain : Bool
  isUsual : Bool

/-- The command behind the options of the command that runs another one; none if that tells something
instead, or does nothing. -/
def behindOptions? : List Text → Option (Bool × List Text)
  | [] => none
  | ['-', '-'] :: rest => if rest = [] then none else some (false, rest)
  | ('-' :: letter :: letters) :: rest =>
      if (letter :: letters).all (· = 'p') then (behindOptions? rest).map fun found => (true, found.2) else none
  | fields => some (false, fields)

/-- The command that is meant by fields. `fuel` bounds how many words in front only tell how to run it. -/
def orderFrom (isPlain isUsual : Bool) : (fuel : Nat) → List Text → Order
  | fuel + 1, name :: rest =>
      if name = "command".toList then
        match behindOptions? rest with
        | some (usual, fields) => orderFrom true (isUsual || usual) fuel fields
        | none => ⟨name :: rest, isPlain, isUsual⟩
      else ⟨name :: rest, isPlain, isUsual⟩
  | _, fields => ⟨fields, isPlain, isUsual⟩

/-- The command that is meant by fields. -/
def ShellState.order (shell : ShellState) (fields : List Text) : Order :=
  if (shell.functions.lookup "command".toList).isSome then ⟨fields, false, false⟩
  else orderFrom false false fields.length fields

/-- Tells what the command is that runs another one, or does nothing. -/
def describeOrder (run : Runner) (arguments : List Text) : Run Unit := do
  let options ← ownOptions ['p', 'v', 'V'] [] arguments
  match options.operands, options.lastOf? ['v', 'V'] with
  | name :: _, some 'V' => describeCommands run [name]
  | name :: _, some _ => tellCallable run name
  | _, _ => finish 0

/-- Runs a command that is given by its fields. -/
def runOrder (run : Runner) (order : Order) : Run Unit := do
  match order.fields with
  | [] => finish 0
  | name :: arguments =>
      let shell ← get
      let defined := if order.isPlain then none else shell.functions.lookup name
      match defined, builtin? run name with
      | some body, _ => callFunction run body arguments
      | none, some builtin => if order.isPlain then forgiving builtin arguments else builtin arguments
      | none, none =>
          if name = "command".toList then
            noticing 1 (speaking name (forgiving (describeOrder run) arguments))
          else if name = "type".toList then noticing 1 (speaking name (describeCommands run arguments))
          else runCalled run order.isUsual false (name :: arguments)

/-- Whether a command runs as a program of its own. -/
def isExternal (run : Runner) (shell : ShellState) (name : Text) : Bool :=
  (shell.functions.lookup name).isNone && (builtin? run name).isNone

/-- Lets a program take the place of the shell; without one only the streams of the shell change. -/
def replaceShell (run : Runner) (isUsual : Bool) (arguments : List Text) : Run Unit := do
  if arguments = [] then finish 0
  else
    let shell ← get
    let isFound := (programPath? shell (arguments.headD [])).isSome
    set { shell with
      isLast := true
      traps := if isFound then shell.inheritedTraps else shell.traps }
    speaking "exec".toList (runCalled run isUsual true arguments)
    throw (.exited (← get).status)

/-- Writes a command as it is about to run, if this is asked for. -/
def trace (collector : Collector) (before : ShellState) (assigned : List (Text × Text)) (fields : List Text) :
    Run Unit := do
  let shell ← get
  if shell.options.has 'x' then
    let mark := (readFragments (fun _ => none) 200 .document [] ((shell.value? "PS4").getD [])).map (·.1)
    let mark ← fillDocument collector (mark.getD [])
    let words := assigned.map (fun entry => entry.1 ++ '=' :: entry.2) ++ fields
    let line := mark ++ List.intercalate [' '] words ++ ['\n']
    match before.stream? 2 with
    | some (.input _ _) => pure ()
    | some stream => writeTo (some stream) line
    | none => pure ()

/-- Runs a simple command. -/
def runSimple (run : Runner) (assignments : List Assignment) (words : List Word)
    (redirections : List Redirection) : Run Unit := do
  modify fun shell => { shell with substituted := none }
  let collector := collector run
  let fields ← fillCommand collector words
  let before ← get
  let order := before.order fields
  match order.fields with
  | [] =>
      withRedirections collector redirections (finish 2) (do
        trace collector before (← assignAll collector false assignments) []
        finish ((← get).substituted.getD 0))
  | name :: arguments =>
      if name = "exec".toList then
        if ← redirectAll collector redirections then
          trace collector before (← assignAll collector (arguments ≠ []) assignments) fields
          replaceShell run order.isUsual arguments
        else if order.isPlain then finish 2
        else throw .mistaken
      else if isSpecial name && !order.isPlain then
        withRedirections collector redirections (throw .mistaken) (do
          trace collector before (← assignAll collector false assignments) fields
          runOrder run order)
      else
        let stays := !before.isLast || !isExternal run before name
        modify fun shell =>
          { shell with held := before.held || (stays && before.speaksToCaller) }
        takingBack (fun shell => { shell.unassigned before assignments with held := before.held })
          (withRedirections collector redirections (finish 2) (do
            trace collector before (← assignAll collector true assignments) fields
            runOrder run order))

/-- How a round of a loop ends: at its own end, cut short, or as the last one. -/
inductive Round where
  | whole
  | cut
  | last

/-- Runs one round of a loop. -/
def runRound (body : Run Unit) : Run Round := do
  match ← attempt body with
  | none => pure .whole
  | some (.broken (loops + 2)) => throw (.broken (loops + 1))
  | some (.continued (loops + 2)) => throw (.continued (loops + 1))
  | some (.broken _) => do
      finish 0
      pure .last
  | some (.continued _) => do
      finish 0
      pure .cut
  | some stop => throw stop

/-- Runs something within one more loop. -/
def withinLoop (action : Run Unit) : Run Unit := do
  let loops := (← get).loops
  modify fun shell => { shell with loops := loops + 1 }
  takingBack (fun shell => { shell with loops }) action

/-- Runs a body as long as its condition asks for it, which is at most as often as commands may run. `status`
is that of the last round. -/
def repeatRounds (run : Runner) (untilHolds : Bool) (condition body : List Script) :
    (rounds : Nat) → (status : Nat) → Run Unit
  | 0, _ => blocked
  | rounds + 1, status => do
      match ← runRound (testing (notLast (runAll run condition))) with
      | .last => finish status
      | .cut => repeatRounds run untilHolds condition body rounds status
      | .whole =>
          if ((← get).status = 0) = untilHolds then finish status
          else
            match ← runRound (notLast (runAll run body)) with
            | .last => pure ()
            | _ => repeatRounds run untilHolds condition body rounds (← get).status

/-- Runs a body for every value of a parameter. -/
def runForEach (run : Runner) (name : Text) (body : List Script) : List Text → Run Unit
  | [] => pure ()
  | value :: rest => do
      assign name value
      match ← runRound (notLast (runAll run body)) with
      | .last => pure ()
      | _ => runForEach run name body rest

/-- Whether a text is one of those that some words stand for as patterns. -/
def matchesAny (collector : Collector) (text : Text) : List Word → Run Bool
  | [] => pure false
  | word :: rest => do
      let cells ← fillCells collector word
      if (Pattern.ofCells cells).matches text then pure true else matchesAny collector text rest

/-- Runs the first branch that a text belongs to. -/
def runBranch (run : Runner) (text : Text) : List Branch → Run Unit
  | [] => finish 0
  | branch :: rest => do
      if ← matchesAny (collector run) text branch.patterns then
        if branch.body.isEmpty then finish 0 else runAll run branch.body
      else runBranch run text rest

/-- What comes behind that which has been collected of a command. A command that hands a stream on for ever
hands it to the next one. -/
def supplyBehind (number : Nat) : Option Stop → Run Supply
  | none => pure .nothing
  | some (.passing supply other) =>
      if other = number then pure supply else throw (.passing supply other)
  | some .stalled => pure .silence
  | some stop => throw stop

/-- Runs a command of a pipeline beside the others, which all begin at the same time. -/
def runStage (run : Runner) (before : ShellState) (input : Option Stream) (stage : Script) : Run Unit := do
  modify fun shell => { shell.withStream 0 input with slept := before.slept }
  inShell (waitedFor before) (endingWith run (run stage))

/-- Whether a source hands on what the caller or a peer sends. -/
def Source.isLive (source : Source) : Bool :=
  source.supply = .caller || source.supply = .peer

/-- Whether a command of a pipeline leaves the one before it waiting for ever. That one hands on live input, and
notices only then that nobody is there any more when it has something to hand on. So it has handed on what
there was if it has been read, or if the command has taken its time. -/
def leavesWaiting (begun later : ShellState) (input : Option Stream) : Bool :=
  match input.bind begun.sourceOf? with
  | none => false
  | some source =>
      source.isLive
        && (begun.slept < later.slept || begun.started < later.started
          || input.bind later.sourceOf? ≠ some source)

/-- Runs the commands of a pipeline from one on. The first of them has an `input` of the pipeline if others
stand before it; `waits` tells whether one of those never ends, and `slept` how long the longest of them
takes. -/
def runStages (run : Runner) (before : ShellState) (input : Option Stream) (waits : Bool)
    (slept : Milliseconds) : List Script → Run Unit
  | [] => pure ()
  | [last] => do
      let begun ← get
      let stop ← attempt (runStage run before (input.or (before.stream? 0)) last)
      let later ← get
      set { later with
        streams := before.streams
        slept := max slept later.slept }
      match stop with
      | some stop => throw stop
      | none => if waits || leavesWaiting { begun with slept := before.slept } later input then blocked
  | stage :: rest => do
      let begun ← get
      let (stop, number, text) ← collect (runStage run before (input.or (before.stream? 0)) stage)
      let later ← get
      let supply ← supplyBehind number stop
      let next ← newInput text supply .pipe
      let waits :=
        waits || supply = .silence || leavesWaiting { begun with slept := before.slept } later input
      runStages run before (some next) waits (max slept later.slept) rest

/-- Runs commands of which one feeds the next. -/
def runPipeline (run : Runner) (stages : List Script) : Run Unit := do
  let before ← get
  takingBack (·.forgetting before) (runStages run before none false before.slept stages)

/-- Runs a command in the background, where it has no input. Others do not wait for it, but the caller
notices for how long it keeps the output open. -/
def runBackground (run : Runner) (body : Script) : Run Unit := do
  let before ← get
  let input ← newInput [] .nothing .device
  modify fun shell => { shell.withStream 0 (some input) with nextProcess := before.nextProcess + 1 }
  let own (shell : ShellState) : ShellState :=
    { shell with isLast := true, held := false, inBackground := true }
  let stop ← attempt (inShell own
    (endingWith run (run body)))
  let later ← get
  let job : Job :=
    { process := before.nextProcess
      status := later.status
      ending := if stop = some .stalled then later.limit else later.slept
      keepsOutput := stop = some .stalled || before.speaksToCaller
      isOrphan := false }
  set { later with
    streams := before.streams
    slept := before.slept
    jobs := job :: later.jobs
    lastJob := some job.process
    status := 0 }
  match stop with
  | some .connected => throw .connected
  | some .hungUp => if later.preamble = .broken then throw .hungUp
  | _ => pure ()

/-- Runs a command whose parts are run by a runner that is handed in. -/
def runCommand (run : Runner) : Script → Run Unit
  | .simple line assignments words redirections => do
      modify fun shell => { shell with line }
      runSimple run assignments words redirections
      runPending run
      checkFailure
  | .redirected body redirections => do
      let before ← get
      takingBack (fun shell => { shell with held := before.held })
        (withRedirections (collector run) redirections (do finish 2; checkFailure) (do
          modify fun shell => { shell with held := before.held || before.speaksToCaller }
          notLast (run body)))
  | .group body => runAll run body
  | .subshell body => do
      let before ← get
      let own := if before.isLast then fun shell => shell else waitedFor before
      inShell own (endingWith run (runAll run body))
      runPending run
      checkFailure
  | .background body => runBackground run body
  | .both first second => do
      notLast (testing (run first))
      if (← get).status = 0 then run second
  | .either first second => do
      notLast (testing (run first))
      if (← get).status ≠ 0 then run second
  | .negated body => do
      notLast (testing (run body))
      finish (statusOf ((← get).status ≠ 0))
  | .piped stages => do
      runPipeline run stages
      checkFailure
  | .choice condition yes no => do
      notLast (testing (runAll run condition))
      if (← get).status = 0 then runAll run yes
      else if no.isEmpty then finish 0
      else runAll run no
  | .repetition untilHolds condition body => do
      withinLoop (repeatRounds run untilHolds condition body ((← get).budget + 1) 0)
  | .forEach name words body => do
      let values ← match words with
        | some words => fillAll (collector run) words
        | none => pure (← get).arguments
      if values.isEmpty then finish 0
      withinLoop (runForEach run name body values)
  | .matching subject branches => do
      runBranch run (← fillText (collector run) subject) branches
  | .definition name body => do
      modify fun shell => { shell with
        functions := (name, body) :: shell.functions.filter (·.1 ≠ name)
        status := 0 }

/-- Runs a command, unless commands are only read. -/
def runStep (run : Runner) (script : Script) : Run Unit := do
  let shell ← get
  if shell.budget = 0 then blocked
  set { shell with budget := shell.budget - 1 }
  unless shell.options.runsNothing do runCommand run script

/-- Runs a command. `levels` bounds how deep commands stand in one another; what goes deeper is a
mistake. -/
def run : (levels : Nat) → Runner
  | 0, _ => throw .mistaken
  | levels + 1, script => runStep (run levels) script

/-- How deep commands may stand in one another. -/
def levelLimit : Nat := 6000

/-- How many commands a script may run. -/
def commandLimit : Nat := 60000

/-- What becomes of a stream that a script is to carry: it leads to the peer, it stays silent, or it
ends. -/
inductive Ending where
  | connected
  | silent
  | ended
deriving DecidableEq, Repr

/-- What a script does: the calls that it makes to the peer, and what becomes of the stream. -/
structure Performance where
  calls : List Call
  ending : Ending
deriving DecidableEq, Repr

/-- The number of the process of the first shell. -/
def firstProcess : Nat := 1000

/-- The rights that are taken from new files without being told: those of others to write. -/
def usualMask : Nat := 18

/-- A shell before it runs anything, in a directory, with parameters that it is given. -/
def ShellState.initial (tree : Tree) (place : Place) (parameters : List (Text × Text))
    (limit : Milliseconds) : ShellState :=
  let handedDown := ("PATH".toList, Parameter.mk (some usualSearchPath) true false)
    :: parameters.map fun entry => (entry.1, ⟨some entry.2, true, false⟩)
  let shell : ShellState :=
    { tree
      details := []
      twins := []
      place
      written := []
      parameters := beginningWith handedDown
      saved := []
      savedOptions := none
      depth := 0
      line := fun _ => 1
      speaker := none
      arguments := []
      nextArgument := 1
      argumentOffset := none
      name := "sh".toList
      functions := []
      aliases := []
      options := .usual
      mask := usualMask
      process := firstProcess
      isOwner := true
      traps := []
      ownerTraps := []
      pending := []
      jobs := []
      lastJob := none
      nextProcess := firstProcess + 1
      loops := 0
      isLast := false
      tested := false
      failsToFlow := false
      held := false
      inBackground := false
      streams := [(0, .input 0 .pipe), (1, .toCaller), (2, .nowhere)]
      sources := [(0, ⟨[], .caller⟩)]
      openFiles := []
      status := 0
      substituted := none
      collected := []
      nextNumber := 1
      calls := []
      preamble := .empty
      budget := commandLimit
      started := 0
      slept := 0
      limit }
  shell.inDirectory.bind "PPID".toList (some ⟨some ['1'], false, false⟩)

/-- What becomes of the stream when a shell has stopped. A process that has been left behind may keep the
stream open. -/
def endingWhen (shell : ShellState) : Option Stop → Ending
  | some .connected => .connected
  | some .stalled => .silent
  | some .hungUp => .ended
  | _ => if 0 < shell.lingering ∧ shell.limit ≤ shell.lingering then .silent else .ended

/-- A call as the peer tells it. -/
def Call.told (call : Call) : Call :=
  ⟨call.words.map unspelled, ⟨unspelled call.directory.text⟩⟩

/-- What a shell that has stopped has done. -/
def performanceOf (shell : ShellState) (stop : Option Stop) : Performance :=
  ⟨shell.calls.map Call.told, endingWhen shell stop⟩

/-- Runs a script in a directory for as long as its caller waits. -/
def perform (tree : Tree) (place : Place) (parameters : List (Text × Text)) (limit : Span)
    (text : Text) : Performance :=
  let runner := run levelLimit
  let begun := ShellState.initial (tree.renamed spelled) (place.map spelled)
    (parameters.map fun (name, value) => (spelled name, spelled value)) (ticks limit)
  match (attempt (endingWith runner (runLines runner (spelled text)))).run begun with
  | .ok stop shell => performanceOf shell stop
  | .error stop shell => performanceOf shell (some stop)

end SecureShell.Rehearsal.Shell
