/-
Module: SecureShell.Rehearsal.Shell.Wrapping
Purpose: Programs that are told by their arguments which program to run: in another environment or directory,
  for a span of time, with another priority, or with the words of the input as arguments.
Main exports: environmentLines, wrapper?
-/
import SecureShell.Rehearsal.Shell.InputWords
import SecureShell.Rehearsal.Shell.Timing

namespace SecureShell.Rehearsal.Shell

/-- The status of a program that could not even try to run another one. -/
def cancelledStatus : Nat := 125

/-- The letter of an option that has only a name. -/
def namedOnly : Char := '↯'

/-- The options of the program that changes the environment. -/
def environmentOptions : OptionTable where
  plain := ['i', '0', 'v', namedOnly]
  valued := ['u', 'C', 'S']
  names := [("ignore-environment", 'i'), ("null", '0'), ("debug", 'v'), ("unset", 'u'), ("chdir", 'C'),
    ("split-string", 'S'), ("list-signal-handling", namedOnly)]
  everywhere := false

/-- The lines that tell the parameters which programs see. -/
def environmentLines (ending : Char) (shell : ShellState) : Text :=
  shell.environment.flatMap fun (name, parameter) =>
    name ++ '=' :: parameter.value.getD [] ++ [ending]

/-- Sets what programs see of the parameters, as arguments ask, and gives the arguments behind those. -/
def setEnvironment : List Text → Run (List Text)
  | [] => pure []
  | argument :: rest => do
      match assigned? argument with
      | some (name, value) =>
          modify fun shell => shell.bind name (some ⟨some value, true, false⟩)
          setEnvironment rest
      | none => pure (argument :: rest)

/-- The arguments of the program that changes the environment, with those that stand together in one text
apart. `fuel` bounds the steps. -/
def environmentArguments : (fuel : Nat) → List Text → Except Misuse Arguments
  | 0, _ => .ok ⟨[], []⟩
  | fuel + 1, arguments => do
      let found ← environmentOptions.read arguments
      match found.value? 'S' with
      | none => pure found
      | some text =>
          let others ← environmentArguments fuel (quotedWords none none text ++ found.operands)
          pure { others with options := found.options.filter (·.1 ≠ 'S') ++ others.options }

/-- Changes the environment and the directory as options ask, as far as it can be done. -/
def prepare (called : Text) : List (Char × Text) → Run Bool
  | [] => pure true
  | (letter, value) :: rest => do
      if letter = 'u' then
        if value = [] ∨ '=' ∈ value then
          complainOf called ("cannot unset ".toList ++ singleQuoted value) .invalidArgument cancelledStatus
          pure false
        else
          modify fun shell => shell.bind value none
          prepare called rest
      else if letter = 'C' then
        let shell ← get
        match shell.tree.enter shell.place ⟨value⟩ with
        | .ok place =>
            set { shell with place }
            prepare called rest
        | .error cause => do
            complainOf called ("cannot change directory to ".toList ++ singleQuoted value) cause cancelledStatus
            pure false
      else prepare called rest

/-- Runs a program in another environment, or tells the environment. -/
def runInEnvironment (next : List Text → Run Unit) (called : Text) (arguments : List Text) : Run Unit :=
  understood called cancelledStatus (environmentArguments (arguments.length + 8) arguments) fun options => do
    let isEmpty := options.has 'i' || options.operands.head? = some ['-']
    let operands := if options.operands.head? = some ['-'] then options.operands.drop 1 else options.operands
    if isEmpty then modify fun shell => { shell with parameters := [] }
    if ← prepare called (options.options.filter fun entry => entry.1 = 'u') then
      let command ← setEnvironment operands
      if ← prepare called (options.options.filter fun entry => entry.1 = 'C') then
        if command.isEmpty then
          write (environmentLines (if options.has '0' then '\x00' else '\n') (← get))
          finish 0
        else next command

/-- The letter of an option that has only a name: the status of the program that is run is kept. -/
def keepingLetter : Char := '↻'

/-- The options of the program that limits time. -/
def limitOptions : OptionTable where
  plain := ['v', namedOnly, keepingLetter]
  valued := ['s', 'k']
  names := [("signal", 's'), ("kill-after", 'k'), ("verbose", 'v'), ("foreground", namedOnly),
    ("preserve-status", keepingLetter)]
  everywhere := false

/-- Runs a program for a limited time. -/
def runLimited (signalNumber? : Text → Option Nat) (next : List Text → Run Unit) (called : Text)
    (arguments : List Text) : Run Unit :=
  understood called cancelledStatus (limitOptions.read arguments) fun options => do
    let signal := match options.value? 's' with
      | none => some 15
      | some name => signalNumber? name
    match signal, options.operands with
    | none, _ =>
        refuse called cancelledStatus ⟨singleQuoted ((options.value? 's').getD []) ++ ": invalid signal".toList, true⟩
    | some signal, span :: command :: rest =>
        match span? span with
        | none => refuse called cancelledStatus (badSpan span)
        | some span =>
            let status :=
              if signal = 9 then 137 else if options.has keepingLetter then 128 + signal else 124
            withinTime span status (next (command :: rest))
    | _, _ =>
        tell ((Misuse.mk [] true).message called |>.drop (called.length + 3))
        finish cancelledStatus

/-- The options of the program that changes the priority, of which a number may stand right behind a dash. -/
def priorityOptions : OptionTable where
  plain := []
  valued := ['n']
  names := [("adjustment", 'n')]
  everywhere := false

/-- Runs a program with another priority. -/
def runPolitely (next : List Text → Run Unit) (called : Text) (arguments : List Text) : Run Unit :=
  let arguments := match arguments with
    | ('-' :: digit :: digits) :: rest =>
        if (digit :: digits).all Char.isDigit then "-n".toList :: (digit :: digits) :: rest else arguments
    | arguments => arguments
  understood called cancelledStatus (priorityOptions.read arguments) fun options => do
    let isNumber (text : Text) : Bool :=
      (count? (if text.head?.any fun c => c = '-' || c = '+' then text.drop 1 else text)).isSome
    match options.value? 'n', options.operands with
    | some value, operands =>
        if !isNumber value then refuse called cancelledStatus (.plain "invalid adjustment " value)
        else if operands.isEmpty then
          refuse called cancelledStatus ⟨"a command must be given with an adjustment".toList, true⟩
        else next operands
    | none, [] =>
        write ['0', '\n']
        finish 0
    | none, operands => next operands

/-- A program that runs another one as it is, with its options, its wording where there is none, and the status
of its refusals. -/
structure PlainWrapper where
  table : OptionTable
  missing : Misuse
  status : Nat

/-- The options of a program that runs another one as it is, all of which stand in front. -/
def leading (plain valued : Text) (names : List (String × Char)) : OptionTable where
  plain
  valued
  names
  everywhere := false

/-- The programs that run others as they are, by their names. -/
def plainWrappers : List (String × PlainWrapper) :=
  let noCommand : Misuse := ⟨"no command specified".toList, true⟩
  [ ("nohup", ⟨leading [] [] [], .missingOperand, cancelledStatus⟩),
    ("setsid", ⟨leading ['c', 'f', 'w'] [] [], noCommand, 1⟩),
    ("ionice", ⟨leading ['t'] ['c', 'n', 'p', 'P', 'u'] [], noCommand, 1⟩),
    ("stdbuf", ⟨leading [] ['i', 'o', 'e'] [("input", 'i'), ("output", 'o'), ("error", 'e')], .missingOperand,
      cancelledStatus⟩) ]

/-- A program that is told by its arguments which program to run, with what it does before. -/
def wrapper? (signalNumber? : Text → Option Nat) (called name : Text) (next : List Text → Run Unit)
    (arguments : List Text) : Option (Run Unit) :=
  match String.ofList name with
  | "env" => some (inShell (fun shell => shell) (runInEnvironment next called arguments))
  | "timeout" => some (runLimited signalNumber? next called arguments)
  | "nice" => some (runPolitely next called arguments)
  | "xargs" => some (inShell (fun shell => shell) (runWithWords next called arguments))
  | text =>
      (plainWrappers.lookup text).map fun wrapper =>
        understood called wrapper.status (wrapper.table.read arguments) fun options =>
          if options.operands.isEmpty then refuse called wrapper.status wrapper.missing
          else if text = "stdbuf" && options.options.isEmpty then
            refuse called wrapper.status ⟨"you must specify a buffering mode option".toList, true⟩
          else next options.operands

end SecureShell.Rehearsal.Shell
