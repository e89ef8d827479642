/-
Module: SecureShell.Rehearsal.Shell.Blocks
Purpose: The program that copies blocks. Its operands name the input and the output, the sizes of the blocks, how
  many are passed and how many are copied, and how they are changed.
Main exports: BlockCopy, BlockCopy.read, runBlocks
-/
import SecureShell.Rehearsal.Shell.Excerpt
import SecureShell.Rehearsal.Shell.Relaying

namespace SecureShell.Rehearsal.Shell

/-- An amount of blocks, or of bytes. -/
structure Amount where
  number : Nat
  isBytes : Bool
deriving DecidableEq, Repr

/-- How many bytes an amount is for blocks of a size. -/
def Amount.bytes (amount : Amount) (size : Nat) : Nat :=
  if amount.isBytes then amount.number else amount.number * size

/-- What is copied and how: the files; the size of a block that is written as it is read, or the sizes of blocks
that are read and of those that are written; the size of records; what is passed and copied; and the words for
changes, for how files are opened, and for what is told. -/
structure BlockCopy where
  input : Option Text := none
  output : Option Text := none
  size : Option Nat := none
  inputSize : Nat := 512
  outputSize : Nat := 512
  recordSize : Nat := 0
  skipped : Amount := ⟨0, false⟩
  sought : Amount := ⟨0, false⟩
  most : Option Amount := none
  changes : List Text := []
  inputFlags : List Text := []
  outputFlags : List Text := []
  level : Text := []

namespace BlockCopy

/-- The size of the blocks that are read. -/
def readSize (copy : BlockCopy) : Nat := copy.size.getD copy.inputSize

/-- The size of the blocks that are written. -/
def writeSize (copy : BlockCopy) : Nat := copy.size.getD copy.outputSize

/-- Whether a change is asked for. -/
def changesBy (copy : BlockCopy) (word : String) : Bool :=
  copy.changes.contains word.toList

/-- The words for changes of what is copied. -/
def contentChanges : List Text :=
  ["ucase", "lcase", "swab", "block", "unblock", "sync"].map String.toList

/-- The words for changes that leave what is copied as it is. -/
def otherChanges : List Text :=
  ["notrunc", "nocreat", "excl", "noerror", "fdatasync", "fsync", "sparse"].map String.toList

/-- The words for how files are opened. -/
def fileFlags : List Text :=
  ["append", "binary", "cio", "direct", "directory", "dsync", "noatime", "nocache", "noctty", "nofollow", "nolinks",
    "nonblock", "sync", "text", "fullblock", "count_bytes", "skip_bytes", "seek_bytes"].map String.toList

/-- The words for what is told. -/
def levels : List Text :=
  ["none", "noxfer", "progress"].map String.toList

/-- What the letters behind a number multiply it by. -/
def multipliers : List (String × Nat) :=
  [("c", 1), ("w", 2)] ++ Filters.units

/-- A number with letters behind it, or the product of several with a sign between them. -/
def number? (text : Text) : Option Nat :=
  (Text.segments 'x' text).foldr (fun part product => do
    let digits := part.takeWhile Char.isDigit
    if digits = [] then none
    else
      let factor ← multipliers.lookup (String.ofList (part.drop digits.length))
      pure (Nat.ofDigitChars 10 digits 0 * factor * (← product))) (some 1)

/-- A number, or the refusal of what is none. -/
def number (isPositive : Bool) (value : Text) : Except Misuse Nat :=
  match number? value with
  | some found => if isPositive && found = 0 then .error (.plain "invalid number: " value) else .ok found
  | none => .error (.plain "invalid number: " value)

/-- An amount, which a letter behind it makes one of bytes. -/
def amount (value : Text) : Except Misuse Amount :=
  if value.getLast? = some 'B' ∧ (number? value).isNone = true then
    (number false value.dropLast).mapError (fun _ => .plain "invalid number: " value) |>.map (⟨·, true⟩)
  else (number false value).map (⟨·, false⟩)

/-- Words with commas between them, of which each is known. -/
def words (what : String) (known : List Text) (value : Text) : Except Misuse (List Text) :=
  (Text.segments ',' value).mapM fun word =>
    if known.contains word then .ok word
    else .error ⟨what.toList ++ ": ".toList ++ singleQuoted word, true⟩

/-- Reads an operand. -/
def readOperand (copy : BlockCopy) (operand : Text) : Except Misuse BlockCopy := do
  let unknown : Misuse := ⟨"unrecognized operand ".toList ++ singleQuoted operand, true⟩
  let some (name, value) := assigned? operand | throw unknown
  match String.ofList name with
  | "if" => pure { copy with input := some value }
  | "of" => pure { copy with output := some value }
  | "bs" => pure { copy with size := some (← number true value) }
  | "ibs" => pure { copy with inputSize := ← number true value }
  | "obs" => pure { copy with outputSize := ← number true value }
  | "cbs" => pure { copy with recordSize := ← number true value }
  | "skip" => pure { copy with skipped := ← amount value }
  | "iseek" => pure { copy with skipped := ← amount value }
  | "seek" => pure { copy with sought := ← amount value }
  | "oseek" => pure { copy with sought := ← amount value }
  | "count" => pure { copy with most := some (← amount value) }
  | "conv" =>
      let found ← words "invalid conversion" (contentChanges ++ otherChanges) value
      pure { copy with changes := copy.changes ++ found }
  | "iflag" =>
      let found ← words "invalid input flag" fileFlags value
      pure { copy with inputFlags := copy.inputFlags ++ found }
  | "oflag" =>
      let found ← words "invalid output flag" fileFlags value
      pure { copy with outputFlags := copy.outputFlags ++ found }
  | "status" =>
      if levels.contains value then pure { copy with level := value }
      else throw ⟨"invalid status level: ".toList ++ singleQuoted value, true⟩
  | _ => throw unknown

/-- A copy in which amounts are counted in bytes where flags say so. -/
def withFlags (copy : BlockCopy) : BlockCopy :=
  let counted (flags : List Text) (word : String) (amount : Amount) : Amount :=
    if flags.contains word.toList then { amount with isBytes := true } else amount
  { copy with
    skipped := counted copy.inputFlags "skip_bytes" copy.skipped
    most := copy.most.map (counted copy.inputFlags "count_bytes")
    sought := counted copy.outputFlags "seek_bytes" copy.sought }

/-- Reads the operands. -/
def read (arguments : List Text) : Except Misuse BlockCopy := do
  let table : OptionTable := { plain := [], valued := [], names := [("help", 'H'), ("version", 'V')] }
  let found ← table.read arguments
  let copy ← found.operands.foldlM readOperand {}
  let clash (first second : String) : Bool := copy.changesBy first && copy.changesBy second
  let fault (first second : String) : Misuse :=
    ⟨"cannot combine ".toList ++ first.toList ++ " and ".toList ++ second.toList, false⟩
  if clash "block" "unblock" then throw (fault "block" "unblock")
  if clash "lcase" "ucase" then throw (fault "lcase" "ucase")
  if clash "excl" "nocreat" then throw (fault "excl" "nocreat")
  pure copy.withFlags

/-- How many blocks have been read or written that are whole, and how many that are not. -/
structure Records where
  whole : Nat
  part : Nat
deriving DecidableEq, Repr

/-- The records of a text in blocks of a size. -/
def recordsOf (size : Nat) (text : Text) : Records :=
  ⟨text.length / size, if text.length % size = 0 then 0 else 1⟩

/-- A text in blocks of a size. -/
def blocks (size : Nat) : (fuel : Nat) → Text → List Text
  | 0, _ => []
  | fuel + 1, text => if text = [] then [] else text.take size :: blocks size fuel (text.drop size)

/-- A text in which the characters of each pair have changed their places. -/
def swapped : Text → Text
  | first :: second :: rest => second :: first :: swapped rest
  | rest => rest

/-- A line as a record of a size: blanks are filled in, and what is too much is left out. -/
def asRecord (size : Nat) (line : Text) : Text :=
  line.take size ++ List.replicate (size - line.length) ' '

/-- The lines of a text, of which the last may have no end. -/
def openLines (text : Text) : List Text :=
  (Filters.fullLines text).map Filters.bare

/-- What is written of what has been read. -/
def changed (copy : BlockCopy) (text : Text) : Text :=
  let filler := if copy.changesBy "block" || copy.changesBy "unblock" then ' ' else '\x00'
  let padded := if copy.changesBy "sync" then
      text ++ List.replicate ((copy.readSize - text.length % copy.readSize) % copy.readSize) filler
    else text
  let cased :=
    if copy.changesBy "ucase" then padded.map Char.toUpper
    else if copy.changesBy "lcase" then padded.map Char.toLower
    else padded
  let paired := if copy.changesBy "swab" then swapped cased else cased
  if copy.recordSize = 0 then paired
  else if copy.changesBy "block" then (openLines paired).flatMap (asRecord copy.recordSize)
  else if copy.changesBy "unblock" then
    (blocks copy.recordSize (paired.length + 1) paired).flatMap fun block =>
      (block.reverse.dropWhile (· = ' ')).reverse ++ ['\n']
  else paired

/-- How many lines are too long for the size of records. -/
def truncated (copy : BlockCopy) (text : Text) : Nat :=
  if copy.recordSize ≠ 0 ∧ copy.changesBy "block" = true then
    ((openLines text).filter fun line => copy.recordSize < line.length).length
  else 0

/-- Whether what has been read is written at once. -/
def isDirect (copy : BlockCopy) : Bool :=
  (copy.size.isSome || copy.outputSize = 1) && !copy.changes.any contentChanges.contains

/-- What is told in the end about the records that have been read and written, and how many bytes these have. -/
def summary (copy : BlockCopy) (read written : Records) (cut bytes : Nat) : Text :=
  let line (records : Records) (what : String) : Text :=
    Text.decimal records.whole ++ '+' :: Text.decimal records.part ++ " records ".toList ++ what.toList ++ ['\n']
  let lines := line read "in" ++ line written "out"
    ++ if cut = 0 then []
      else Text.decimal cut ++ (if cut = 1 then " truncated record\n" else " truncated records\n").toList
  if copy.level = "none".toList then []
  else if copy.level = "noxfer".toList then lines
  else lines ++ Text.decimal bytes ++ (if bytes = 1 then " byte" else " bytes").toList ++ " copied, 0 s\n".toList

end BlockCopy

/-- Opens the input of a copy. -/
def openInput (called : Text) (copy : BlockCopy) : Run Bool := do
  match copy.input with
  | none => pure true
  | some name =>
      match ← openForReading name with
      | .ok stream =>
          modify (·.withStream 0 (some stream))
          pure true
      | .error cause =>
          complainOf called ("failed to open ".toList ++ singleQuoted name) cause 1
          pure false

/-- Opens the output of a copy. What a file holds is kept if this is asked for, or up to where it is written. -/
def openOutput (called : Text) (copy : BlockCopy) : Run Bool := do
  match copy.output with
  | none => pure true
  | some name =>
      let shell ← get
      let sought := copy.sought.bytes copy.writeSize
      let isThere := (shell.resolve name).isOk
      let opened ←
        if copy.changesBy "excl" && isThere then pure (.error .exists)
        else if copy.changesBy "nocreat" && !isThere then pure (.error .notFound)
        else if copy.outputFlags.contains "append".toList then openForWriting .behind name
        else if copy.changesBy "notrunc" || 0 < sought then openForWriting .within name
        else openForWriting .anyway name
      match opened with
      | .error cause =>
          complainOf called ("failed to open ".toList ++ singleQuoted name) cause 1
          pure false
      | .ok stream =>
          modify (·.withStream 1 (some stream))
          let shell ← get
          if let .file number := stream then
            if let some file := shell.openFiles.lookup number then
              let content := shell.contentOf file
              let kept := content.take sought ++ List.replicate (sought - content.length) 0
              let opened := shell.withOpenFile number { file with passed := sought }
              set (match file.place, copy.changesBy "notrunc" || file.appends with
                | some place, false => opened.withFile place kept
                | _, _ => opened)
          pure true

/-- Copies blocks from the input to the output. -/
def copyBlocks (called : Text) (copy : BlockCopy) : Run Unit := do
  let shell ← get
  let inputName := (copy.input.getD "'standard input'".toList)
  let quoted := singleQuoted (copy.input.getD "standard input".toList)
  let tellSummary (read written : BlockCopy.Records) (cut bytes : Nat) : Run Unit :=
    tell (copy.summary read written cut bytes)
  let nothing : BlockCopy.Records := ⟨0, 0⟩
  let sought := copy.sought.bytes copy.writeSize
  let isFile := match shell.stream? 1 with
    | some (.file _) => true
    | _ => false
  if 0 < sought && !isFile then
    tell (called ++ ": 'standard output': cannot seek: Illegal seek\n".toList)
    tellSummary nothing nothing 0 0
    return ← finish 1
  let cause? : Option SystemError := match shell.stream? 0, shell.source? 0 with
    | some .directory, _ => some .isDirectory
    | _, none => some .badStream
    | _, some _ => none
  if let some cause := cause? then
    complainOf called ("error reading ".toList ++ quoted) cause 1
    if cause = .badStream then complainOf called ("closing input file ".toList ++ quoted) cause 1
    else tellSummary nothing nothing 0 0
    return
  let live ← liveText
  let all ← match live with
    | some text => pure text
    | none => heldText
  let skipped := copy.skipped.bytes copy.readSize
  if all.length < skipped then
    if live.isSome then blocked
    tell (called ++ ": ".toList ++ inputName ++ ": cannot skip to specified offset\n".toList)
  let text := all.drop skipped
  let wanted := copy.most.map (·.bytes copy.readSize)
  let taken := wanted.elim text text.take
  let isEnough := copy.most.any fun most =>
    most.number ≤ if most.isBytes then taken.length else (taken.length + copy.readSize - 1) / copy.readSize
  let changed := copy.changed taken
  if live.isSome && copy.isDirect && copy.most.isNone then
    leaveInput text
    return ← relay
  leaveInput (text.drop taken.length)
  if live.isSome && !isEnough then
    write (if copy.isDirect then changed else changed.take (changed.length / copy.writeSize * copy.writeSize))
    blocked
  write changed
  finish 0
  let written := BlockCopy.recordsOf copy.writeSize changed
  tellSummary (BlockCopy.recordsOf copy.readSize taken) written (copy.truncated taken) changed.length

/-- The program that copies blocks. -/
def runBlocks (called : Text) (arguments : List Text) : Run Unit :=
  understood called 1 (BlockCopy.read arguments) fun copy => do
    let before ← get
    let restore (shell : ShellState) : ShellState :=
      (shell.withStream 0 (before.stream? 0)).withStream 1 (before.stream? 1)
    takingBack restore (do
      if ← openInput called copy then
        if ← openOutput called copy then copyBlocks called copy)

end SecureShell.Rehearsal.Shell
