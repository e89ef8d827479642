/-
Module: SecureShell.Rehearsal.Shell.Records
Purpose: The program that deals with records as another program tells, which is given as an argument or by files. The
  records come from its input or from files.
Main exports: RecordOrder, RecordOrder.ofArguments, runRecords
-/
import SecureShell.Rehearsal.Shell.FreshShell
import SecureShell.Rehearsal.Shell.Recording

namespace SecureShell.Rehearsal.Shell

/-- What the program is asked to do: the text of another one, or the files that hold it; what stands between fields;
the variables that have values from the beginning; what it says about its arguments; whether it reads and writes at
once; and the operands. -/
structure RecordOrder where
  text : Option Text
  files : List Text
  separator : Option Text
  values : List (Text × Text)
  notes : List Text
  isPrompt : Bool
  operands : List Text
deriving DecidableEq, Repr

/-- Why the program does nothing else: it shows something about itself, or its arguments are wrong. -/
inductive RecordRefusal where
  | shown (text : Text)
  | words (text : Text)
deriving DecidableEq, Repr

namespace RecordOrder

/-- An order without anything. -/
def empty : RecordOrder := ⟨none, [], none, [], [], false, []⟩

/-- How the program is used. -/
def usageText : Text :=
  ("Usage: mawk [Options] [Program] [file ...]\n\nProgram:\n"
    ++ "    The -f option value is the name of a file containing program text.\n"
    ++ "    If no -f option is given, a \"--\" ends option processing; the following\n"
    ++ "    parameters are the program text.\n\nOptions:\n"
    ++ "    -f program-file  Program  text is read from file instead of from the\n"
    ++ "                     command-line.  Multiple -f options are accepted.\n"
    ++ "    -F value         sets the field separator, FS, to value.\n"
    ++ "    -v var=value     assigns value to program variable var.\n"
    ++ "    --               unambiguous end of options.\n\n"
    ++ "    Implementation-specific options are prefixed with \"-W\".  They can be\n    abbreviated:\n\n"
    ++ "    -W version       show version information and exit.\n"
    ++ "    -W compat        pre-POSIX 2001.\n"
    ++ "    -W dump          show assembler-like listing of program and exit.\n"
    ++ "    -W help          show this message and exit.\n"
    ++ "    -W interactive   set unbuffered output, line-buffered input.\n"
    ++ "    -W exec file     use file as program as well as last option.\n"
    ++ "    -W posix         stricter POSIX checking.\n"
    ++ "    -W random=number set initial random seed.\n"
    ++ "    -W sprintf=number adjust size of sprintf buffer.\n"
    ++ "    -W usage         show this message and exit.\n").toList

/-- The order with the value of an option. -/
def withOption (order : RecordOrder) (letter : Char) (value : Text) : Except RecordRefusal RecordOrder :=
  if letter = 'F' then
    .ok { order with separator := some (RecordToken.unescaped (value.length + 1) value) }
  else if letter = 'f' then .ok { order with files := order.files ++ [value] }
  else if letter = 'v' then
    match Recording.assignment? value with
    | some entry => .ok { order with values := order.values ++ [entry] }
    | none => .error (.words ("improper assignment: -v ".toList ++ value))
  else if ["help", "usage"].any fun word => value ≠ [] && value.isPrefixOf word.toList then .error (.shown usageText)
  else if value ≠ [] ∧ value.isPrefixOf "interactive".toList then .ok { order with isPrompt := true }
  else if value ≠ [] ∧ value.isPrefixOf "posix".toList then .ok order
  else .ok { order with notes := order.notes ++ ["vacuous option: -W \"".toList ++ value ++ ['"']] }

/-- The order for operands. -/
def withOperands (order : RecordOrder) (operands : List Text) : RecordOrder :=
  match order.files, operands with
  | [], text :: operands => { order with text := some text, operands }
  | _, operands => { order with operands }

/-- What arguments ask for. -/
def readFrom (order : RecordOrder) : List Text → Except RecordRefusal RecordOrder
  | [] => .ok order
  | ['-', '-'] :: rest => .ok (order.withOperands rest)
  | ('-' :: letter :: value) :: rest =>
      if "FfvW".toList.contains letter then
        match value, rest with
        | [], [] => .error (.words ("option -".toList ++ letter :: " lacks argument".toList))
        | [], value :: rest => do readFrom (← order.withOption letter value) rest
        | value, rest => do readFrom (← order.withOption letter value) rest
      else if letter = '-' ∧ (value = "help".toList ∨ value = "usage".toList) then .error (.shown usageText)
      else .error (.words ("not an option: -".toList ++ letter :: value))
  | operands => .ok (order.withOperands operands)

/-- What arguments ask for. -/
def ofArguments (arguments : List Text) : Except RecordRefusal RecordOrder :=
  if arguments = [] then .error (.shown usageText) else empty.readFrom arguments

end RecordOrder

namespace Records

/-- A file with a part of the program, and how many lines stand before it. -/
structure Part where
  file : Option Text
  before : Nat
deriving DecidableEq, Repr

/-- What a fault is told as. Lines are counted in the files of the program. -/
def faultText (called : Text) (parts : List Part) (fault : RecordFault) : Text :=
  let part := (parts.reverse.find? fun part => part.before < fault.line).getD ⟨none, 0⟩
  let file := match part.file with
    | some name => name ++ ": ".toList
    | none => []
  called ++ ": ".toList ++ file ++ (if fault.names then "line ".toList else [])
    ++ Text.decimal (fault.line - part.before) ++ ": ".toList ++ fault.words ++ ['\n']

/-- The text of a program in files, and its parts. -/
def partsOf : (before : Nat) → List (Text × Text) → List Part × Text
  | _, [] => ([], [])
  | before, [(name, text)] => ([⟨some name, before⟩], text)
  | before, (name, text) :: rest =>
      let text := if text.getLast? = some '\n' then text else text ++ ['\n']
      let (parts, others) := partsOf (before + text.count '\n') rest
      (⟨some name, before⟩ :: parts, text ++ others)

/-- What the files hold that have the program, unless one of them cannot be read, which is told. -/
def readFiles (called : Text) : List Text → Run (Option (List (Text × Text)))
  | [] => pure (some [])
  | name :: rest => do
      match (← readGiven {} name).text with
      | .ok text => do pure ((← readFiles called rest).map fun others => (name, text) :: others)
      | .error cause => do
          let words := if cause = .isDirectory then "read error (".toList
            else "cannot open \"".toList ++ name ++ "\" (".toList
          tell (called ++ ": ".toList ++ words ++ cause.reason ++ ")\n".toList)
          pure none

/-- The table of texts that are found by others. -/
def tableOf (entries : List (Text × Text)) : RecordTable :=
  entries.foldl (fun table entry => table.setting (.text entry.1) (.input entry.2)) .empty

/-- What is known at the beginning. -/
def start (called : Text) (shell : ShellState) (order : RecordOrder) : RecordState :=
  let text (value : String) : RecordThing := .value (.text value.toList)
  let number (value : Float) : RecordThing := .value (.number value)
  let globals : List (String × RecordThing) :=
    [ ("NR", number 0), ("FNR", number 0), ("FS", text " "), ("OFS", text " "), ("ORS", text "\n"),
      ("RS", text "\n"), ("SUBSEP", text "\x1c"), ("CONVFMT", text "%.6g"), ("OFMT", text "%.6g"),
      ("RSTART", number 0), ("RLENGTH", number (-1)), ("FILENAME", text ""),
      ("ARGC", number (order.operands.length + 1).toFloat), ("ARGV", .table 0), ("ENVIRON", .table 1) ]
  let operands := (called :: order.operands).zipIdx.map fun (operand, number) =>
    (RecordTable.Index.number number, operand)
  let argv := operands.foldl (fun table entry => table.setting entry.1 (.input entry.2)) RecordTable.empty
  let environ := tableOf (shell.environment.map fun entry => (entry.1, entry.2.value.getD []))
  { called, shell
    globals := globals.map fun entry => (entry.1.toList, entry.2)
    locals := []
    tables := [(0, argv), (1, environ)]
    nextTable := 2
    line := ⟨[], [], false⟩
    operand := 1
    hasInput := false
    input := none
    streams := []
    output := []
    outputSize := 0
    isPrompt := order.isPrompt
    inside := []
    stack := 0
    effort := Recording.effortLimit
    status := 0
    separator := ([' '], .blanks)
    seed := .number 0 }

/-- Runs a command for the program, which waits for it. -/
def runCommand (run : Runner) (called command : Text) : Run Unit := do
  let before ← get
  inShell (waitedFor before) (runShell run called ["-c".toList, command])

/-- Gives the variables the values that they have from the beginning. -/
def setValues (order : RecordOrder) : Recording Unit := do
  if let some separator := order.separator then Recording.setGlobal "FS" (.text separator)
  for (name, value) in order.values do
    Recording.setVariable name (.input value)

/-- Runs a program that has been read. -/
def runScript (run : Runner) (called : Text) (order : RecordOrder) (script : RecordScript) : Run Unit := do
  let program : RecordProgram := ⟨script.definitions, runCommand run⟩
  let before ← get
  let result := (do setValues order; Recording.runAll program script.rules : Recording Unit) (start called before order)
  let (stop, state) := match result with
    | .ok _ state => (none, state)
    | .error (.stopped stop) state => (some stop, state)
    | .error _ state => (none, state)
  set state.shell
  match stop with
  | some stop => throw stop
  | none =>
      finish state.status
      modify (·.forgetting before)

/-- What is wrong with the separator of fields. -/
def separatorFault (order : RecordOrder) : Option Text :=
  match order.separator.map RecordSeparator.ofText with
  | some (.error words) => some ("line 0: ".toList ++ words)
  | _ => none

/-- Does what an order asks for. -/
def runOrder (run : Runner) (called : Text) (order : RecordOrder) : Run Unit := do
  order.notes.forM fun note => tell (called ++ ": ".toList ++ note ++ ['\n'])
  match separatorFault order, ← readFiles called order.files with
  | some words, _ => do
      tell (called ++ ": ".toList ++ words ++ ['\n'])
      finish 2
  | none, none => finish 2
  | none, some files => do
      let (parts, text) := partsOf 0 files
      match RecordScript.read (order.text.getD text) with
      | .error faults => do
          faults.forM fun fault => tell (faultText called parts fault)
          finish 2
      | .ok script => runScript run called order script

end Records

/-- Runs the program that deals with records. -/
def runRecords (run : Runner) (called : Text) (arguments : List Text) : Run Unit := do
  match RecordOrder.ofArguments arguments with
  | .error (.shown text) => do
      write text
      finish 0
  | .error (.words text) => do
      tell (called ++ ": ".toList ++ text ++ ['\n'])
      finish 2
  | .ok order => if order.text.isNone && order.files = [] then finish 0 else Records.runOrder run called order

end SecureShell.Rehearsal.Shell
