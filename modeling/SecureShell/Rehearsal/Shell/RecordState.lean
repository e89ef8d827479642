/-
Module: SecureShell.Rehearsal.Shell.RecordState
Purpose: What a program has come to that deals with records: its variables and tables, the record with its fields, what
  is still to be read, and what has been printed but not written yet.
Main exports: RecordSignal, RecordState, Recording
-/
import SecureShell.Rehearsal.Shell.RecordParts
import SecureShell.Rehearsal.Shell.Relaying

namespace SecureShell.Rehearsal.Shell

/-- What a name stands for: a value, or the table of a number. -/
inductive RecordThing where
  | value (value : RecordValue)
  | table (number : Nat)
deriving BEq, Repr

/-- What comes behind a text that is read: nothing, something that may come later, or more for ever. -/
inductive RecordTail where
  | nothing
  | later
  | endless
deriving DecidableEq, Repr

/-- A text that is read part by part, and what comes behind it. -/
structure RecordInput where
  left : Text
  tail : RecordTail
deriving DecidableEq, Repr

/-- A stream that a program has opened by a name: a file or the output of a command with its status, which are read; a
file that is written, or a command that is given something, with what has been printed for it, the last text first. -/
inductive RecordFlow where
  | file (input : RecordInput)
  | answer (status : Nat) (input : RecordInput)
  | written (goal : Option Stream) (texts : List Text)
  | fed (texts : List Text)
deriving DecidableEq, Repr

/-- Why the statements behind one are not run. -/
inductive RecordSignal where
  | next
  | nextFile
  | exited
  | broken
  | continued
  | returned (value : RecordValue)
  | failed
  | stopped (stop : Stop)
deriving BEq

/-- The record: its text, which has to be made of the fields if it `isStale`, and the fields. -/
structure RecordLine where
  text : Text
  fields : List RecordValue
  isStale : Bool
deriving BEq, Repr

/-- What a program has come to that has been `called` by a name. `globals` and `locals` tell what names stand for,
of the function that runs in the second case; `tables` are those of a number. `operand` is the number of the next
operand that is read, `hasInput` tells whether any file has been among them, and `input` is what is left of the one
that is read. `streams` are those that have been opened, the one used last first. `output` is what has been printed
and not written yet, the last text first, and `outputSize` how much that is; `isPrompt` tells that it is written
and input is read at once. `inside` has the rules of ranges that have begun. `stack` counts what functions and
operators keep while they wait for others, and `effort` how much more may be done before the program counts as one
that never ends. `separator` is the one that has been made of a text last. -/
structure RecordState where
  called : Text
  shell : ShellState
  globals : List (Text × RecordThing)
  locals : List (Text × RecordThing)
  tables : List (Nat × RecordTable)
  nextTable : Nat
  line : RecordLine
  operand : Nat
  hasInput : Bool
  input : Option RecordInput
  streams : List (Text × RecordFlow)
  output : List Text
  outputSize : Nat
  isPrompt : Bool
  inside : List Nat
  stack : Nat
  effort : Nat
  status : Nat
  separator : Text × RecordSeparator
  seed : RecordValue

/-- What a part of a program does. -/
abbrev Recording := EStateM RecordSignal RecordState

namespace Recording

/-- Does what the commands of a script do. -/
def ofRun {α : Type} (action : Run α) : Recording α := fun state =>
  match action state.shell with
  | .ok value shell => .ok value { state with shell }
  | .error stop shell => .error (.stopped stop) { state with shell }

/-- Does not come to an end. -/
def stuck {α : Type} : Recording α :=
  ofRun blocked


/-- Writes what has been printed: all of it, or only whole blocks. -/
def writeOutput (all : Bool) : Recording Unit := do
  let state ← get
  let block := 4096
  if all || state.isPrompt || block < state.outputSize then
    let text := state.output.reverse.flatten
    let size := if all || state.isPrompt then text.length else text.length - text.length % block
    let rest := text.drop size
    set { state with output := [rest], outputSize := rest.length }
    ofRun (write (text.take size))

/-- Prints a text. -/
def print (text : Text) : Recording Unit := do
  modify fun state => { state with
    output := text :: state.output, outputSize := state.outputSize + text.length }
  writeOutput false

/-- Goes on for ever with what has been printed last. -/
def endless {α : Type} : Recording α := do
  match (← get).output.find? (· ≠ []) with
  | none => stuck
  | some unit => do
      writeOutput true
      ofRun (handOn (.flood unit))

/-- Notes that something has been done which may be done again and again. -/
def spend (effort : Nat) : Recording Unit := do
  let state ← get
  if state.effort < effort then endless
  set { state with effort := state.effort - effort }

/-- Writes what has been printed for a file. -/
def writeFlow (name : Text) (flow : RecordFlow) : Recording (Text × RecordFlow) := do
  match flow with
  | .written goal texts =>
      ofRun (writeTo goal texts.reverse.flatten)
      pure (name, .written goal [])
  | flow => pure (name, flow)

/-- Writes everything that has been printed. -/
def writeAll : Recording Unit := do
  writeOutput true
  let streams ← (← get).streams.mapM fun (name, flow) => writeFlow name flow
  modify fun state => { state with streams }

/-- The usual value of a thing. -/
def unset : RecordThing := .value .nothing

/-- The name of the variable that counts the fields. -/
def fieldCount : Text := "NF".toList

/-- What a name stands for. -/
def thing (name : Text) : Recording RecordThing := do
  let state ← get
  match state.locals.lookup name with
  | some found => pure found
  | none =>
      if name = fieldCount then pure (.value (.number state.line.fields.length.toFloat))
      else pure ((state.globals.lookup name).getD unset)

/-- Things with another one for a name. -/
def replaced (name : Text) (new : RecordThing) (things : List (Text × RecordThing)) : List (Text × RecordThing) :=
  match things with
  | [] => [(name, new)]
  | entry :: rest => if entry.1 = name then (name, new) :: rest else entry :: replaced name new rest

/-- Lets a name stand for a thing. -/
def bind (name : Text) (new : RecordThing) : Recording Unit := do
  let state ← get
  if (state.locals.lookup name).isSome then set { state with locals := replaced name new state.locals }
  else set { state with globals := replaced name new state.globals }

/-- The value of a variable. -/
def valueOf (name : Text) : Recording RecordValue := do
  match ← thing name with
  | .value value => pure value
  | .table _ => pure .nothing

/-- The value of a variable that all functions see. -/
def global (name : String) : Recording RecordValue := do
  match (← get).globals.lookup name.toList with
  | some (.value value) => pure value
  | _ => pure .nothing

/-- Gives a value to a variable that all functions see. -/
def setGlobal (name : String) (value : RecordValue) : Recording Unit :=
  modify fun state => { state with globals := replaced name.toList (.value value) state.globals }

/-- The format by which numbers become texts. -/
def conversion : Recording Text := do
  pure ((← global "CONVFMT").toText [])

/-- The text of a value. -/
def textOf (value : RecordValue) : Recording Text := do
  match value with
  | .number number => pure (RecordValue.numberText (← conversion) number)
  | value => pure (value.toText [])

/-- The text of a variable that all functions see. -/
def globalText (name : String) : Recording Text := do
  textOf (← global name)

/-- Tells what is wrong and gives up. -/
def abort {α : Type} (words : Text) : Recording α := do
  let called := (← get).called
  ofRun (tell (called ++ ": ".toList ++ words ++ ['\n']))
  throw .failed

/-- Tells what is wrong with what is done, and gives up. -/
def fail {α : Type} (words : Text) : Recording α := do
  let file ← globalText "FILENAME"
  let inFile ← globalText "FNR"
  let number ← globalText "NR"
  abort ("run time error: ".toList ++ words ++ "\n\tFILENAME=\"".toList ++ file ++ "\" FNR=".toList ++ inFile
    ++ " NR=".toList ++ number)

/-- The expression that a text stands for. -/
def expressionOf (written : Text) : Recording Expression := do
  match RecordReading.readExpression written with
  | .ok expression => pure expression
  | .error words => fail words

/-- The separator of fields that a text names. -/
def separatorOf (written : Text) : Recording RecordSeparator := do
  match RecordSeparator.ofText written with
  | .ok separator => pure separator
  | .error words => fail words

/-- The separator of the fields of records. -/
def fieldSeparator : Recording RecordSeparator := do
  let written ← globalText "FS"
  let (known, separator) := (← get).separator
  if known = written then pure separator
  else
    let separator ← separatorOf written
    modify fun state => { state with separator := (written, separator) }
    pure separator

/-- Refuses a text that is too long. -/
def checkLength (text : Text) : Recording Unit := do
  if valueLimit < text.length then stuck

/-- The record with another text. -/
def setRecord (text : Text) : Recording Unit := do
  let fields := RecordParts.fields (← fieldSeparator) text
  modify fun state => { state with line := ⟨text, fields.map .input, false⟩ }

/-- The text of the record. -/
def record : Recording Text := do
  let line := (← get).line
  if !line.isStale then pure line.text
  else
    let between ← globalText "OFS"
    let texts ← line.fields.mapM textOf
    let text := List.intercalate between texts
    checkLength text
    modify fun state => { state with line := { line with text, isStale := false } }
    pure text

/-- How many fields a record may have. -/
def fieldLimit : Nat := 200000

/-- Fields of a number, some of which may be left out and others may be empty. -/
def withCount (count : Nat) (fields : List RecordValue) : List RecordValue :=
  fields.take count ++ List.replicate (count - fields.length) (.text [])

/-- Lets the record have so many fields. -/
def setFieldCount (count : Int) : Recording Unit := do
  if count < 0 then fail "negative value assigned to NF".toList
  if fieldLimit < count.toNat then stuck
  modify fun state => { state with
    line := { state.line with fields := withCount count.toNat state.line.fields, isStale := true } }

/-- A number as the number of a field. -/
def wordOf (value : Float) : Int :=
  RecordValue.clamped (-2147483647) 2147483647 value

/-- The number of a field. -/
def fieldNumber (value : RecordValue) : Recording Nat := do
  let number := wordOf value.toNumber
  if number < 0 then fail ("negative field index $-".toList ++ Text.decimal number.natAbs)
  pure number.toNat

/-- The value of a field; the one with number zero is the record. -/
def field (number : Nat) : Recording RecordValue := do
  match number with
  | 0 => do pure (.input (← record))
  | index + 1 => do pure (((← get).line.fields[index]?).getD (.text []))

/-- Gives a value to a field. -/
def setField (number : Nat) (value : RecordValue) : Recording Unit := do
  match number with
  | 0 => do setRecord (← textOf value)
  | index + 1 => do
      if fieldLimit < index then stuck
      let line := (← get).line
      let fields := withCount (max line.fields.length (index + 1)) line.fields
      modify fun state => { state with line := { line with fields := fields.set index value, isStale := true } }

/-- Gives a value to a variable. -/
def setVariable (name : Text) (value : RecordValue) : Recording Unit := do
  let isLocal := ((← get).locals.lookup name).isSome
  if name = fieldCount && !isLocal then setFieldCount (wordOf value.toNumber)
  else bind name (.value value)

/-- The number of the table for which a name stands, which is made if there is none yet. -/
def tableOf (name : Text) : Recording Nat := do
  match ← thing name with
  | .table number => pure number
  | .value _ => do
      let number := (← get).nextTable
      modify fun state => { state with nextTable := number + 1, tables := (number, .empty) :: state.tables }
      bind name (.table number)
      pure number

/-- The table of a number. -/
def table (number : Nat) : Recording RecordTable := do
  pure (((← get).tables.lookup number).getD .empty)

/-- Changes the table of a number. -/
def setTable (number : Nat) (new : RecordTable) : Recording Unit :=
  modify fun state => { state with
    tables := (number, new) :: state.tables.filter (·.1 ≠ number) }

/-- The table of a number, which is looked at with more effort the greater it is. -/
def usedTable (number : Nat) : Recording RecordTable := do
  let found ← table number
  spend (found.entries.length / 64)
  pure found

/-- The index that a value stands for. -/
def indexOf (value : RecordValue) : Recording RecordTable.Index := do
  match value with
  | .number number =>
      match RecordValue.whole? number with
      | some whole =>
          if whole.natAbs < RecordValue.signedBound.natAbs then pure (.number whole)
          else pure (.text (RecordValue.formatted (← conversion) number))
      | none => do pure (.text (← textOf value))
  | value => do pure (.text (← textOf value))

/-- Does something while a number of values wait for it. -/
def waiting {α : Type} (values : Nat) (action : Recording α) : Recording α := do
  modify fun state => { state with stack := state.stack + values }
  let result ← action
  modify fun state => { state with stack := state.stack - values }
  pure result

end Recording

end SecureShell.Rehearsal.Shell
