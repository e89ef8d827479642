/-
Module: SecureShell.Rehearsal.Shell.Edit
Purpose: The program that edits lines by a script. It reads the lines of its input or of files, and writes them to its
  output or back into the files.
Main exports: EditOrder, EditOrder.ofArguments, runEdit
-/
import SecureShell.Rehearsal.Shell.Editing
import SecureShell.Rehearsal.Shell.Entries

namespace SecureShell.Rehearsal.Shell

open FileSystem (Place)

/-- A part of a script: an argument with its number among others, or a file, and its text. -/
inductive ScriptPart where
  | argument (number : Nat) (text : Text)
  | file (name text : Text)
deriving DecidableEq, Repr

namespace ScriptPart

/-- The text of a part. -/
def text : ScriptPart → Text
  | .argument _ text => text
  | .file _ text => text

/-- The words for a place of a part behind so much of its text. -/
def place (part : ScriptPart) (passed : Nat) : Text :=
  match part with
  | .argument number _ =>
      "-e expression #".toList ++ Text.decimal number ++ ", char ".toList ++ Text.decimal passed
  | .file name text =>
      "file ".toList ++ name ++ " line ".toList ++ Text.decimal ((text.take passed).count '\n' + 1)

/-- The part of a script, and how much of its text is passed, at a place behind so much of the script. -/
def find : (passed : Nat) → List ScriptPart → ScriptPart × Nat
  | passed, [] => (.argument 1 [], passed)
  | passed, [part] => (part, passed)
  | passed, part :: rest =>
      if passed ≤ part.text.length then (part, passed) else find (passed - part.text.length - 1) rest

end ScriptPart

/-- What the program is asked to do: the script, up to where it is wrong, and the refusal with its status if it is; how
it edits, whether files are edited each by itself, the ending of
the names of what they were before if they are written back, whether the program writes at once, and the files. -/
structure EditOrder where
  script : List EditCommand
  refusal : Option (Misuse × Nat)
  parts : List ScriptPart
  setting : EditSetting
  isSeparate : Bool
  suffix : Option Text
  isPrompt : Bool
  files : List Text

namespace EditOrder

/-- The letter of options that change nothing here. -/
def noLetter : Char := '∅'

/-- The options of the program. -/
def options : OptionTable where
  plain := ['n', 'E', 'r', 'u', 's', 'z', 'b']
  valued := ['e', 'f', 'l']
  optional := ['i']
  names := [("quiet", 'n'), ("silent", 'n'), ("regexp-extended", 'E'), ("unbuffered", 'u'), ("separate", 's'),
    ("null-data", 'z'), ("zero-terminated", 'z'), ("expression", 'e'), ("file", 'f'), ("line-length", 'l'),
    ("in-place", 'i'), ("binary", 'b'), ("posix", noLetter), ("debug", noLetter), ("sandbox", noLetter),
    ("follow-symlinks", noLetter)]

/-- The parts of the script that arguments name, and the files, where `fileText` gives the text of a script in a
file. -/
def partsOf (arguments : Arguments) (fileText : Text → Text) : Except Misuse (List ScriptPart × List Text) :=
  let asked := arguments.options.filter fun entry => entry.1 = 'e' || entry.1 = 'f'
  let parts := asked.foldl (fun (parts, number) entry =>
    if entry.1 = 'e' then (parts ++ [.argument (number + 1) entry.2], number + 1)
    else (parts ++ [.file entry.2 (fileText entry.2)], number)) (([] : List ScriptPart), 0)
  match parts.1, arguments.operands with
  | [], [] => .error ⟨"no script specified".toList, false⟩
  | [], script :: files => .ok ([.argument 1 script], files)
  | parts, files => .ok (parts, files)

/-- The text of a script. A line feed at the end of a file belongs to no command. -/
def scriptText (parts : List ScriptPart) : Text :=
  List.intercalate ['\n'] (parts.map (·.text))

/-- The refusal of a script and its status. -/
def refusalOf (parts : List ScriptPart) (fault : EditFault) : Misuse × Nat :=
  let length := (scriptText parts).length
  let words (place message : Text) : Misuse × Nat := (⟨place ++ ": ".toList ++ message, false⟩, 1)
  match fault with
  | .before rest message =>
      let (part, passed) := ScriptPart.find (length - rest.length) parts
      words (part.place passed) message
  | .unclosed rest =>
      let (part, passed) := ScriptPart.find (length - rest.length) parts
      let place := match part with
        | .argument _ _ => part.place 0
        | .file _ _ => part.place passed
      words place "unmatched \x60\x7b'".toList
  | .unmarked label => (⟨"can't find label for jump to \x60".toList ++ label ++ ['\''], false⟩, 4)

/-- What arguments ask for. A script that begins with a certain comment writes only what is asked for. -/
def ofArguments (arguments : Arguments) (fileText : Text → Text) : Except Misuse EditOrder := do
  let (parts, files) ← partsOf arguments fileText
  let text := scriptText parts
  let style := if arguments.has 'E' || arguments.has 'r' then ExpressionStyle.extended else .basic
  let (script, fault) := EditScript.read style text
  let begins := "#n".toList.isPrefixOf text
  let width := ((arguments.value? 'l').bind count?).getD 70
  pure
    { script, parts, files
      refusal := fault.map (refusalOf parts)
      setting := ⟨arguments.has 'n' || begins, if arguments.has 'z' then '\x00' else '\n', width, false⟩
      isSeparate := arguments.has 's' || arguments.has 'i'
      suffix := arguments.value? 'i'
      isPrompt := arguments.has 'u' }

/-- Whether the script asks for the last line, so that it looks what follows. -/
def looksAhead (order : EditOrder) : Bool :=
  order.script.any fun command =>
    command.first = some .final || command.last = some .final || command.action = .next
      || command.action = .appendNext

end EditOrder

/-- The lines of a text that belongs to a file. -/
def inputLines (ending : Char) (file text : Text) : List InputLine :=
  let parts := Text.segments ending text
  let ended := parts.dropLast.map fun text => (⟨text, true, file⟩ : InputLine)
  match parts.getLast? with
  | some (c :: rest) => ended ++ [⟨c :: rest, false, file⟩]
  | _ => ended

/-- The text of lines. -/
def textOfLines (ending : Char) (lines : List InputLine) : Text :=
  lines.flatMap fun line => line.text ++ if line.isEnded then [ending] else []

/-- The name of the file in which is kept what a file was before it is edited. A star in the ending stands for the
name of the file. -/
def keptName (name suffix : Text) : Text :=
  let base := lastPart name
  let new := if '*' ∈ suffix then suffix.flatMap fun c => if c = '*' then base else [c] else base ++ suffix
  if '/' ∈ new then new else name.take (name.length - base.length) ++ new

/-- The streams of files that a script writes, by their names. -/
abbrev EditStreams := List (Text × Stream)

/-- Opens the files that a script writes, unless one cannot be opened. -/
def openWritten (called : Text) : List Text → Run (Option EditStreams)
  | [] => pure (some [])
  | name :: rest => do
      match ← openForWriting .anyway name with
      | .ok stream => do
          let others ← openWritten called rest
          pure (others.map fun others => (name, stream) :: others)
      | .error cause => do
          complainOf called ("couldn't open file ".toList ++ name) cause 4
          pure none

/-- Writes what has been written in editing. What goes to no file goes into a stream. -/
def writeEdited (streams : EditStreams) (output : Option Stream) (written : List EditOutput) : Run Unit := do
  let messages := (← get).stream? 2
  let isMessage (item : EditOutput) : Bool :=
    item.file.any fun name => (deviceStream? name) = some 2
  for item in written do
    if isMessage item then writeTo messages item.text
  for item in written do
    match item.file with
    | none => writeTo output item.text
    | some name => unless isMessage item do writeTo (streams.lookup name) item.text

/-- Tells that an expression is missing which is needed. -/
def tellFault (called : Text) (order : EditOrder) (fault : Text) : Run Unit := do
  let place := match order.parts.getLast? with
    | some (.argument number text) => (ScriptPart.argument number text).place 0
    | some (.file name text) => (ScriptPart.file name text).place text.length
    | none => []
  tell (called ++ ": ".toList ++ place ++ ": ".toList ++ fault ++ ['\n'])

/-- Edits files and writes them back, one after the other. `status` is the status so far. -/
def editFiles (called : Text) (order : EditOrder) (streams : EditStreams) (sources : List (Text × Text)) :
    EditState → (status : Nat) → List Text → Run Unit
  | _, status, [] => finish status
  | before, status, name :: rest => do
      let shell ← get
      match shell.resolve name with
      | .error cause => do
          complainOf called ("can't read ".toList ++ name) cause 2
          editFiles called order streams sources before (max status 2) rest
      | .ok place =>
          match shell.tree.node? place with
          | some (.file content) => do
              let lines := inputLines order.setting.ending name (ofBytes content)
              let (ending, state) := Editing.edit order.setting order.script (before.restart sources lines)
              if ending = .stuck then blocked
              let written := state.written.reverse
              let text := (written.filter (·.file.isNone)).flatMap (·.text)
              let own := (shell.placeOfName name).toOption.getD place
              let mode := shell.mode place
              let keep (shell : ShellState) : ShellState :=
                match order.suffix with
                | some [] => shell
                | none => shell
                | some suffix =>
                    match shell.newPlace (keptName name suffix) with
                    | .ok kept => shell.relocated own kept
                    | .error _ => shell
              modify fun shell => ((keep shell).withNode own (.file (bytesOf text))).withMode own mode
              if let some fault := state.fault then tellFault called order fault
              writeEdited streams none (written.filter (·.file.isSome))
              match ending with
              | .left _ left => finish left
              | _ => editFiles called order streams sources { state with unended := [] } status rest
          | _ => do
              tell (called ++ ": couldn't edit ".toList ++ name ++ ": not a regular file\n".toList)
              finish 4

/-- What is read: lines of a file or of the input, or nothing because it cannot be read, perhaps so that editing cannot
go on. -/
structure EditInput where
  lines : List InputLine
  isInput : Bool
  status : Nat
  isBroken : Bool

/-- Reads a file, or looks at the input, and tells whether more of that may come. `hasLines` tells whether there are
lines before, and `isTaken`, whether the input has been looked at before. -/
def readEdited (called : Text) (order : EditOrder) (hasLines isTaken : Bool) (name : Text) :
    Run (EditInput × Bool) := do
  let shell ← get
  let isInput := name = ['-'] || deviceStream? name = some 0
  let broken (words : Text) (cause : SystemError) : Run (EditInput × Bool) := do
    complainOf called ("read error on ".toList ++ words) cause 4
    pure (⟨[], false, 4, true⟩, false)
  if isInput then
    if isTaken then pure (⟨[], true, 0, false⟩, false)
    else
      match shell.stream? 0, shell.source? 0 with
      | some .directory, _ => broken "stdin".toList .isDirectory
      | _, none => broken "stdin".toList .badStream
      | _, some _ => do
          let live ← liveText
          let text ← match live with
            | some text => pure text
            | none => heldText
          pure (⟨inputLines order.setting.ending name text, true, 0, false⟩, live.isSome)
  else
    match (← readGiven {} name).text with
    | .ok text => pure (⟨inputLines order.setting.ending name text, false, 0, false⟩, false)
    | .error .isDirectory =>
        if order.looksAhead && hasLines then pure (⟨[], false, 0, false⟩, false) else broken name .isDirectory
    | .error cause => do
        complainOf called ("can't read ".toList ++ name) cause 2
        pure (⟨[], false, 2, false⟩, false)

/-- Reads files up to one that cannot be passed over, and tells whether more of the input may come. -/
def readAllEdited (called : Text) (order : EditOrder) : (hasLines isTaken : Bool) → List Text →
    Run (List EditInput × Bool)
  | _, _, [] => pure ([], false)
  | hasLines, isTaken, name :: rest => do
      let (input, waits) ← readEdited called order hasLines isTaken name
      if input.isBroken || waits then pure ([input], waits)
      else
        let hasLines := hasLines || input.lines ≠ []
        let (others, waits) ← readAllEdited called order hasLines (isTaken || input.isInput) rest
        pure (input :: others, waits)

/-- Edits groups of lines one after the other, each by itself, and tells what has been written, how editing has come
to its end, what is wrong, and which lines are left. -/
def editGroups (setting : EditSetting) (script : List EditCommand) (sources : List (Text × Text)) :
    List (List InputLine) → EditState → List EditOutput × CycleEnd × Option Text × List InputLine
  | [], _ => ([], .over false, none, [])
  | lines :: rest, before =>
      let (ending, state) := Editing.edit setting script (before.restart sources lines)
      match ending with
      | .over _ =>
          let (written, others) := editGroups setting script sources rest state
          (state.written.reverse ++ written, others)
      | ending => (state.written.reverse, ending, state.fault, state.coming ++ rest.flatten)

/-- Edits the lines of files or of the input and writes them to the output. -/
def editStreams (called : Text) (order : EditOrder) (streams : EditStreams) (sources : List (Text × Text)) :
    Run Unit := do
  let files := if order.files = [] then [['-']] else order.files
  let (inputs, waits) ← readAllEdited called order false false files
  let groups := if order.isSeparate then inputs.map (·.lines) else [inputs.flatMap (·.lines)]
  let (written, ending, fault, left) :=
    editGroups { order.setting with waits } order.script sources groups (.start [] [])
  let isOwn (line : InputLine) : Bool := line.file = ['-'] || deviceStream? line.file = some 0
  let output := (← get).stream? 1
  let isStuck := ending = .stuck || (waits && ending = .over false)
  if isStuck then
    if order.isPrompt then writeEdited streams output written
    blocked
  if inputs.any (·.isInput) then
    let origin := (← get).inputOrigin
    let rest := textOfLines order.setting.ending (left.filter isOwn)
    leaveInput (if origin = .file || order.isPrompt then rest else [])
  if let some fault := fault then tellFault called order fault
  writeEdited streams output written
  finish (match ending with
    | .left _ status => status
    | _ => inputs.foldl (fun status input => max status input.status) 0)

/-- The files that a script reads, and what they hold. The input can only be read so if it is not edited itself. -/
def readSources (order : EditOrder) : Run (List (Text × Text)) := do
  let isInput (name : Text) : Bool := name = ['-'] || deviceStream? name = some 0
  let isTaken := order.files = [] || order.files.any isInput
  (EditScript.filesRead order.script).eraseDups.mapM fun name => do
    if isTaken && isInput name then pure (name, []) else pure (name, (← readGiven {} name).text.toOption.getD [])

/-- Edits as an order asks, once the files are open that the script writes. -/
def editAsAsked (called : Text) (order : EditOrder) (streams : EditStreams) : Run Unit := do
  match order.refusal with
  | some (misuse, status) => refuse called status misuse
  | none => do
      let sources ← readSources order
      if order.suffix.isNone then editStreams called order streams sources
      else if order.files = [] then
        tell (called ++ ": no input files\n".toList)
        finish 4
      else editFiles called order streams sources (.start [] []) 0 order.files

/-- Runs the program that edits lines. -/
def runEdit (called : Text) (arguments : List Text) : Run Unit :=
  understood called 1 (EditOrder.options.read arguments) fun arguments => do
    let scripts := (arguments.options.filter (·.1 = 'f')).map (·.2)
    let read ← scripts.mapM fun file => readGiven {} file
    let failed := read.findSome? fun given => match given.text with
      | .error cause => if cause = .isDirectory then none else some (given.name, cause)
      | .ok _ => none
    if let some (name, cause) := failed then
      return ← complainOf called ("couldn't open file ".toList ++ name) cause 4
    let texts := read.map fun given =>
      let text := given.text.toOption.getD []
      (given.name, if text.getLast? = some '\n' then text.dropLast else text)
    let order := EditOrder.ofArguments arguments fun file => (texts.lookup file).getD []
    understood called 1 order fun order => do
      let before ← get
      if let some streams ← openWritten called (EditScript.filesWritten order.script).eraseDups then
        editAsAsked called order streams
      modify (·.forgetting before)

end SecureShell.Rehearsal.Shell
