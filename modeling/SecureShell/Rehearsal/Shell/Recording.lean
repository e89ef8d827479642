/-
Module: SecureShell.Rehearsal.Shell.Recording
Purpose: How programs run that deal with records. Terms have values and may change what a program has come to, and
  statements only do that; a function for a single term or statement is given one for all of them.
Main exports: RecordProgram, Recording.evaluate, Recording.run
-/
import SecureShell.Rehearsal.Shell.RecordFlows

namespace SecureShell.Rehearsal.Shell

/-- A program that runs: its functions, and how commands are run for it. -/
structure RecordProgram where
  definitions : List RecordDefinition
  run : CommandRunner

/-- What runs all terms and statements of a program. -/
structure RecordRunner where
  program : RecordProgram
  evaluate : RecordTerm → Recording RecordValue
  run : RecordStatement → Recording Unit

/-- What a value can be given to. -/
inductive RecordPlace where
  | variable (name : Text)
  | element (table : Nat) (index : RecordTable.Index)
  | field (number : Nat)
deriving DecidableEq, Repr

namespace Recording

/-- The value at a place. -/
def valueAt (place : RecordPlace) : Recording RecordValue := do
  match place with
  | .variable name => valueOf name
  | .field number => field number
  | .element number index =>
      let found ← usedTable number
      setTable number (found.finding index)
      pure (found.value index)

/-- Puts a value at a place. -/
def setValueAt (place : RecordPlace) (value : RecordValue) : Recording Unit := do
  match place with
  | .variable name => setVariable name value
  | .field number => setField number value
  | .element number index =>
      let found ← usedTable number
      setTable number (found.setting index value)

/-- The number of a value. -/
def numberOf (value : RecordValue) : Float :=
  value.toNumber

/-- The value of a number. -/
def number (value : Float) : RecordValue :=
  .number value

/-- The value of a count. -/
def counted (value : Nat) : RecordValue :=
  .number value.toFloat

/-- The values of terms, one after the other. -/
def evaluateAll (go : RecordRunner) : List RecordTerm → Recording (List RecordValue)
  | [] => pure []
  | term :: rest => do
      let value ← go.evaluate term
      let others ← waiting 1 (evaluateAll go rest)
      pure (value :: others)

/-- The index that terms stand for; several are joined. -/
def indexFrom (go : RecordRunner) (terms : List RecordTerm) : Recording RecordTable.Index := do
  match ← evaluateAll go terms with
  | [value] => indexOf value
  | values => do
      let between ← globalText "SUBSEP"
      let texts ← values.mapM textOf
      pure (.text (List.intercalate between texts))

/-- The place that a term stands for. -/
def placeFrom (go : RecordRunner) (term : RecordTerm) : Recording RecordPlace := do
  match term with
  | .variable name => pure (.variable name)
  | .element name index => do
      let index ← indexFrom go index
      pure (.element (← tableOf name) index)
  | .field number => do pure (.field (← fieldNumber (← go.evaluate number)))
  | _ => pure (.field 0)

/-- The expression that a term stands for: one that is written, or one that a text is read as. -/
def expressionFrom (go : RecordRunner) (term : RecordTerm) : Recording Expression := do
  match term with
  | .expression expression => pure expression
  | term => do expressionOf (← textOf (← go.evaluate term))

/-- A text made of others, which may not be too long. -/
def joined (texts : List Text) : Recording RecordValue := do
  let text := texts.flatten
  checkLength text
  pure (.text text)

/-- Gives a value to what a line is read into, or makes it the record. -/
def setLine (go : RecordRunner) (goal : Option RecordTerm) (text : Text) : Recording Unit := do
  match goal with
  | none => setRecord text
  | some goal => do setValueAt (← placeFrom go goal) (.input text)

/-- The value of reading a line: one if there is one, zero at the end, and less if nothing can be read. -/
def readInto (go : RecordRunner) (goal : Option RecordTerm) (found : Option (Option Text)) :
    Recording RecordValue := do
  match found with
  | some (some text) =>
      setLine go goal text
      pure (number 1)
  | some none => pure (number 0)
  | none => pure (number (-1))

/-- How many values may wait for others. -/
def stackLimit : Nat := 1006

/-- What is passed to a function for a term: a table, or a value. A variable without a value may become a table. -/
def passed (go : RecordRunner) (term : RecordTerm) : Recording RecordThing := do
  match term with
  | .variable name =>
      match ← thing name with
      | .value .nothing =>
          if name = fieldCount then pure unset else pure (.table (← tableOf name))
      | found => pure found
  | term => do pure (.value (← go.evaluate term))

/-- What is passed to a function for terms. -/
def passAll (go : RecordRunner) : List RecordTerm → Recording (List RecordThing)
  | [] => pure []
  | term :: rest => do
      let first ← passed go term
      let others ← waiting 1 (passAll go rest)
      pure (first :: others)

/-- Calls a function that is defined by the program. -/
def call (go : RecordRunner) (name : Text) (arguments : List RecordTerm) : Recording RecordValue := do
  match go.program.definitions.find? (·.name = name) with
  | none => pure .nothing
  | some definition =>
      let given ← passAll go arguments
      let before ← get
      let locals := (definition.parameters.zip (given ++ definition.parameters.map fun _ => unset))
      let stack := before.stack + definition.parameters.length
      if stackLimit < stack then abort "program limit exceeded: eval stack size=1024".toList
      spend 1
      modify fun state => { state with locals, stack }
      let value ← tryCatch (do go.run definition.body; pure RecordValue.nothing) fun signal =>
        match signal with
        | .returned value => pure value
        | signal => throw signal
      modify fun state => { state with
        locals := before.locals
        stack := before.stack
        tables := state.tables.filter fun entry =>
          entry.1 < before.nextTable || !state.locals.any fun thing => thing.2 == .table entry.1 }
      pure value

/-- Looks for the first part of a text that an expression stands for, and tells where it is. -/
def findPart (text : Text) (expression : Expression) : Recording RecordValue := do
  let (start, length) : Nat × Float := match expression.search false text with
    | some found => (found.before.length + 1, found.part.length.toFloat)
    | none => (0, -1)
  setGlobal "RSTART" (counted start)
  setGlobal "RLENGTH" (number length)
  pure (counted start)

/-- A part of a text from a place on, perhaps of a length. -/
def partOf (text : Text) (start : Int) (length : Option Int) : Text :=
  match length with
  | none => text.drop (start - 1).toNat
  | some length =>
      let length := if start < 1 then length + (if start < 0 then -start else 0) else length
      (text.drop (start - 1).toNat).take length.toNat

/-- Where one text stands in another one, counted from one on; zero if it does not. `place` is the number of the next
character. -/
def positionOf (wanted : Text) : (place : Nat) → Text → Nat
  | place, [] => if wanted = [] then place else 0
  | place, c :: rest => if wanted.isPrefixOf (c :: rest) then place else positionOf wanted (place + 1) rest

/-- Splits a text into the elements of a table, and tells how many there are. -/
def split (go : RecordRunner) (text : Text) (name : Text) (separator : Option RecordTerm) : Recording RecordValue := do
  let separator ← match separator with
    | none => fieldSeparator
    | some (.expression expression) => pure (.expression expression)
    | some term => do separatorOf (← textOf (← go.evaluate term))
  let parts := RecordParts.fields separator text
  let number ← tableOf name
  setTable number (if parts = [] then .empty else .ofValues (parts.map .input))
  pure (counted parts.length)

/-- Replaces parts of a text that an expression stands for, and tells how many. -/
def replaceParts (go : RecordRunner) (all : Bool) (expression written goal : RecordTerm) : Recording RecordValue := do
  let expression ← expressionFrom go expression
  let written ← textOf (← go.evaluate written)
  let place ← placeFrom go goal
  let text ← textOf (← valueAt place)
  let (changed, count) := RecordParts.replaced expression all written (text.length + 2) none false text
  checkLength changed
  if 0 < count then setValueAt place (.text changed)
  pure (counted count)

/-- The words for what is wrong with a format. -/
def formatWords (function : String) (format : Text) (fault : RecordFormatFault) : Text :=
  let called := function.toList ++ "(\"".toList ++ format ++ "\")".toList
  match fault with
  | .notEnough => "not enough arguments passed to ".toList ++ called
  | .improper number => "improper conversion(number ".toList ++ Text.decimal number ++ ") in ".toList ++ called

/-- Values printed by a format, as far as it is right, and what is done if it is not. -/
def formatted (values : List RecordValue) : Recording (Text × Text × Option RecordFormatFault) := do
  let format ← textOf (values.headD .nothing)
  let (text, fault) :=
    RecordParts.formatted (← conversion) (format.length + 1) 1 (values.drop 1) format
  checkLength text
  pure (text, format, fault)

/-- What a function of a number gives. -/
def numeric? (function : RecordFunction) (value : Float) : Option Float :=
  match function with
  | .sine => some value.sin
  | .cosine => some value.cos
  | .exponential => some value.exp
  | .logarithm => some value.log
  | .root => some value.sqrt
  | .whole => some (if value < 0 then value.ceil else value.floor)
  | _ => none

/-- A number that nobody can foresee. -/
def anyNumber : Float := 0.5

/-- Applies a function of the language to values. -/
def applyTo (go : RecordRunner) (function : RecordFunction) (values : List RecordValue) : Recording RecordValue := do
  let first := values.headD .nothing
  let second := (values[1]?).getD .nothing
  match function with
  | .substring => do
      let start := wordOf (numberOf second)
      let text ← textOf first
      pure (.text (partOf text start ((values[2]?).map fun length => wordOf (numberOf length))))
  | .index => do
      let text ← textOf first
      pure (counted (positionOf (← textOf second) 1 text))
  | .lower => do pure (.text ((← textOf first).map Char.toLower))
  | .upper => do pure (.text ((← textOf first).map Char.toUpper))
  | .arcTangent => pure (number (Float.atan2 (numberOf first) (numberOf second)))
  | .random => pure (number anyNumber)
  | .seed => do
      let before := (← get).seed
      modify fun state => { state with seed := first }
      pure before
  | .format => do
      let (text, format, fault) ← formatted (values.map fun value => match value with
        | .text text => .input text
        | value => value)
      match fault with
      | some fault => fail (formatWords "sprintf" format fault)
      | none => pure (.text text)
  | .run => do
      let command ← textOf first
      writeAll
      ofRun (go.program.run "sh".toList command)
      pure (counted (← get).shell.status)
  | .close => do
      let status ← close go.program.run (← textOf first)
      pure (status.elim (number (-1)) counted)
  | .flush => do
      if values.isEmpty then
        writeOutput true
        pure (number 0)
      else pure (number (if ← flush (← textOf first) then 0 else -1))
  | function => pure (number ((numeric? function (numberOf first)).getD 0))

/-- Applies a function of the language to terms. -/
def apply (go : RecordRunner) (function : RecordFunction) (arguments : List RecordTerm) : Recording RecordValue := do
  match function, arguments with
  | .length, [] => do pure (counted (← record).length)
  | .length, [.variable name] =>
      match ← thing name with
      | .table number => do pure (counted (← table number).entries.length)
      | .value value => do pure (counted (← textOf value).length)
  | .length, term :: _ => do pure (counted (← textOf (← go.evaluate term)).length)
  | .split, text :: .variable name :: rest => do
      let text ← textOf (← go.evaluate text)
      split go text name rest.head?
  | .replaceFirst, expression :: written :: rest =>
      replaceParts go false expression written (rest.headD (.field (.number 0)))
  | .replaceAll, expression :: written :: rest =>
      replaceParts go true expression written (rest.headD (.field (.number 0)))
  | .findPart, [text, expression] => do
      let text ← textOf (← go.evaluate text)
      findPart text (← expressionFrom go expression)
  | function, arguments => do applyTo go function (← evaluateAll go arguments)

/-- The value of a term. -/
def evaluateWith (go : RecordRunner) (term : RecordTerm) : Recording RecordValue := do
  let isTrue (term : RecordTerm) : Recording Bool := do pure (← go.evaluate term).isTrue
  match term with
  | .number value => pure (number value)
  | .text text => pure (.text text)
  | .expression expression => do pure (.ofBool (expression.search false (← record)).isSome)
  | .variable name => valueOf name
  | .element _ _ => do valueAt (← placeFrom go term)
  | .field _ => do valueAt (← placeFrom go term)
  | .assign goal none value => do
      let place ← placeFrom go goal
      let value ← waiting 1 (go.evaluate value)
      setValueAt place value
      pure value
  | .assign goal (some operation) value => do
      let place ← placeFrom go goal
      let value ← waiting 1 (go.evaluate value)
      let result := number (RecordValue.combined operation (numberOf (← valueAt place)) (numberOf value))
      setValueAt place result
      pure result
  | .step goal rises isBefore => do
      let place ← placeFrom go goal
      let before := numberOf (← valueAt place)
      let after := if rises then before + 1 else before - 1
      setValueAt place (number after)
      pure (number (if isBefore then after else before))
  | .negative term => do pure (number (-(numberOf (← go.evaluate term))))
  | .positive term => do pure (number (numberOf (← go.evaluate term)))
  | .not term => do pure (.ofBool (!(← isTrue term)))
  | .combine operation first second => do
      let first ← go.evaluate first
      let second ← waiting 1 (go.evaluate second)
      pure (number (RecordValue.combined operation (numberOf first) (numberOf second)))
  | .compare comparison first second => do
      let first ← go.evaluate first
      let second ← waiting 1 (go.evaluate second)
      pure (.ofBool (RecordValue.compares (← conversion) comparison first second))
  | .join first second => do
      let first ← go.evaluate first
      let second ← waiting 1 (go.evaluate second)
      joined [← textOf first, ← textOf second]
  | .match negated term expression => do
      let text ← textOf (← go.evaluate term)
      let expression ← waiting 1 (expressionFrom go expression)
      pure (.ofBool ((expression.search false text).isSome != negated))
  | .both first second => do
      if ← isTrue first then pure (.ofBool (← isTrue second)) else pure (.ofBool false)
  | .either first second => do
      if ← isTrue first then pure (.ofBool true) else pure (.ofBool (← isTrue second))
  | .choice condition first second => do
      if ← isTrue condition then go.evaluate first else go.evaluate second
  | .isIn index name => do
      let index ← indexFrom go index
      let number ← tableOf name
      let found ← usedTable number
      setTable number (found.asked index)
      pure (.ofBool (found.has index))
  | .list items => do
      let texts ← (← evaluateAll go items).mapM textOf
      joined texts
  | .call name arguments => call go name arguments
  | .apply function arguments => apply go function arguments
  | .readLine goal => do
      let found ← nextRecord
      readInto go goal (some found)
  | .readFile goal file => do
      let name ← textOf (← go.evaluate file)
      readInto go goal (← readNamed go.program.run false name)
  | .readCommand goal command => do
      let name ← textOf (← go.evaluate command)
      readInto go goal (← readNamed go.program.run true name)

/-- Runs the body of a loop, and tells whether the loop goes on. -/
def goesOn (body : Recording Unit) : Recording Bool :=
  tryCatch (do body; pure true) fun signal =>
    match signal with
    | .broken => pure false
    | .continued => pure true
    | signal => throw signal

/-- Runs the body of a loop and the step behind it as long as a condition holds. `fuel` bounds how often. -/
def repeating (condition : Recording Bool) (body step : Recording Unit) : (fuel : Nat) → Recording Unit
  | 0 => endless
  | fuel + 1 => do
      spend 1
      if ← condition then
        if ← goesOn body then
          step
          repeating condition body step fuel

/-- Runs the body of a loop for texts as long as it goes on. -/
def repeatingFor (body : Text → Recording Unit) : List Text → Recording Unit
  | [] => pure ()
  | text :: rest => do
      spend 1
      if ← goesOn (body text) then repeatingFor body rest

/-- How much a program may do. -/
def effortLimit : Nat := 1000000

/-- Where something is printed. -/
def outletFrom (go : RecordRunner) (outlet : Option RecordOutlet) : Recording (Option (RecordGoal × Text)) := do
  let named (goal : RecordGoal) (term : RecordTerm) : Recording (Option (RecordGoal × Text)) := do
    pure (some (goal, ← textOf (← go.evaluate term)))
  match outlet with
  | none => pure none
  | some (.anew file) => named .anew file
  | some (.behind file) => named .behind file
  | some (.command command) => named .command command

/-- The text of a value that is printed. -/
def printed (value : RecordValue) : Recording Text := do
  match value with
  | .number number => do pure (RecordValue.numberText (← globalText "OFMT") number)
  | value => textOf value

/-- Runs a statement. -/
def runWith (go : RecordRunner) (statement : RecordStatement) : Recording Unit := do
  let holds (condition : RecordTerm) : Recording Bool := do pure (← go.evaluate condition).isTrue
  match statement with
  | .block statements => statements.forM go.run
  | .term term => do
      let _ ← go.evaluate term
  | .print items outlet => do
      let text ← match items with
        | [] => record
        | items => do
            let texts ← (← evaluateAll go items).mapM printed
            pure (List.intercalate (← globalText "OFS") texts)
      let goal ← outletFrom go outlet
      printTo goal (text ++ (← globalText "ORS"))
  | .format items outlet => do
      let values ← evaluateAll go items
      let goal ← outletFrom go outlet
      let (text, format, fault) ← formatted values
      printTo goal text
      match fault with
      | some fault => fail (formatWords "printf" format fault)
      | none => pure ()
  | .choose condition first second => do
      if ← holds condition then go.run first else second.forM go.run
  | .while condition body => repeating (holds condition) (go.run body) (pure ()) effortLimit
  | .doWhile body condition => do
      if ← goesOn (go.run body) then repeating (holds condition) (go.run body) (pure ()) effortLimit
  | .for first condition step body => do
      first.forM go.run
      let condition := match condition with
        | some condition => holds condition
        | none => pure true
      repeating condition (go.run body) (step.forM go.run) effortLimit
  | .forEach goal name body => do
      let found ← table (← tableOf name)
      repeatingFor (fun index => do
        setValueAt (← placeFrom go goal) (.text index)
        go.run body) found.indices
  | .next => throw .next
  | .nextFile => throw .nextFile
  | .exit status => do
      if let some status := status then
        let value ← go.evaluate status
        modify fun state => { state with status := (wordOf value.toNumber % 256).toNat }
      throw .exited
  | .return value => do
      match value with
      | some value => do throw (.returned (← go.evaluate value))
      | none => throw (.returned .nothing)
  | .break => throw .broken
  | .continue => throw .continued
  | .delete name none => do setTable (← tableOf name) .empty
  | .delete name (some index) => do
      let index ← indexFrom go index
      let number ← tableOf name
      setTable number ((← usedTable number).without index)

/-- What runs terms and statements of a program. `fuel` bounds how deep they are. -/
def runner (program : RecordProgram) : (fuel : Nat) → RecordRunner
  | 0 => ⟨program, fun _ => stuck, fun _ => stuck⟩
  | fuel + 1 =>
      ⟨program, fun term => evaluateWith (runner program fuel) term,
        fun statement => runWith (runner program fuel) statement⟩

/-- What runs all terms and statements of a program. -/
def whole (program : RecordProgram) : RecordRunner :=
  runner program 200000

/-- Whether a rule is meant for the record. -/
def isMeant (go : RecordRunner) (rule : RecordRule) : Recording Bool := do
  match rule.pattern with
  | .before => pure false
  | .behind => pure false
  | .always => pure true
  | .having condition => do pure (← go.evaluate condition).isTrue
  | .between first last => do
      let hasBegun := (← get).inside.contains rule.place
      let isMeant ← if hasBegun then pure true else do pure (← go.evaluate first).isTrue
      if isMeant then
        let isLast := (← go.evaluate last).isTrue
        modify fun state => { state with
          inside := (if isLast then [] else [rule.place]) ++ state.inside.filter (· ≠ rule.place) }
      pure isMeant

/-- Follows a rule. The record is printed if nothing is told. -/
def follow (go : RecordRunner) (rule : RecordRule) : Recording Unit :=
  go.run (rule.action.getD (.print [] none))

/-- Runs the rules for a record, and tells whether the others of its file are read, too. -/
def runRules (go : RecordRunner) (rules : List RecordRule) : Recording Bool :=
  tryCatch
    (do
      rules.forM fun rule => do
        if ← isMeant go rule then follow go rule
      pure true)
    fun signal => match signal with
      | .next => pure true
      | .nextFile => pure false
      | signal => throw signal

/-- Runs rules for all records. `fuel` bounds their number. -/
def runRecords (go : RecordRunner) (rules : List RecordRule) : (fuel : Nat) → Recording Unit
  | 0 => stuck
  | fuel + 1 => do
      match ← nextRecord with
      | none => pure ()
      | some record =>
          setRecord record
          let readsOn ← runRules go rules
          modify fun state => { state with
            locals := [], stack := 0, input := if readsOn then state.input else none }
          runRecords go rules fuel

/-- Does something that may be left, and tells whether it has failed. -/
def leaving (action : Recording Unit) : Recording Bool :=
  tryCatch (do action; pure false) fun signal =>
    match signal with
    | .failed => do
        modify fun state => { state with status := 2 }
        pure true
    | .stopped stop => throw (.stopped stop)
    | _ => pure false

/-- Runs a program: the rules that come before all records, those for records unless there are none, and those that
come behind them. -/
def runAll (program : RecordProgram) (rules : List RecordRule) : Recording Unit := do
  let go := whole program
  let before := rules.filter (·.pattern == .before)
  let behind := rules.filter (·.pattern == .behind)
  let others := rules.filter fun rule => !(rule.pattern == .before || rule.pattern == .behind)
  let isLeft ← leaving do
    before.forM (follow go)
    unless others.isEmpty && behind.isEmpty do runRecords go others effortLimit
  modify fun state => { state with locals := [], stack := 0 }
  unless isLeft do
    let _ ← leaving (behind.forM (follow go))
  closeAll program.run

end Recording

end SecureShell.Rehearsal.Shell
