/-
Module: SecureShell.Rehearsal.Shell.Names
Purpose: Programs that take paths apart, tell where they lead, or tell who and where a script is; and the program
  that counts.
Main exports: baseName, directoryName, runBasename, runDirname, runSeq, runReadlink, runRealpath
-/
import SecureShell.Rehearsal.Shell.Calculation
import SecureShell.Rehearsal.Shell.Printing
import SecureShell.Rehearsal.Shell.Transfers
import SecureShell.Rehearsal.Shell.Wrapping

namespace SecureShell.Rehearsal.Shell

open FileSystem (Tree Place Node)

/-- The last part of a path. -/
def baseName (path : Text) : Text :=
  let trimmed := withoutSlashes path
  if trimmed = [] then path.take 1 else (Text.segments '/' trimmed).getLastD []

/-- The path without its last part. -/
def directoryName (path : Text) : Text :=
  let trimmed := withoutSlashes path
  if trimmed = [] then (if path = [] then ['.'] else ['/'])
  else
    match (Text.segments '/' trimmed).dropLast with
    | [] => ['.']
    | parts =>
        let above := withoutSlashes (List.intercalate ['/'] parts)
        if above = [] then ['/'] else above

/-- A path without an ending, unless that is all of it. -/
def withoutEnding (ending path : Text) : Text :=
  if ending.isSuffixOf path ∧ ending ≠ path then path.take (path.length - ending.length) else path

/-- Writes a line. -/
def writeLine (text : Text) : Run Unit := do
  write (text ++ ['\n'])
  finish 0

/-- Writes texts, each with a line feed or a null character behind it. -/
def writeEach (isNull : Bool) (texts : List Text) : Run Unit := do
  write (texts.flatMap (· ++ [if isNull then '\x00' else '\n']))
  finish 0

/-- The options of the program that gives last parts of paths. -/
def lastPartOptions : OptionTable where
  plain := ['a', 'z']
  valued := ['s']
  names := [("multiple", 'a'), ("zero", 'z'), ("suffix", 's')]
  everywhere := false

/-- The program that gives last parts of paths. -/
def runBasename (called : Text) (arguments : List Text) : Run Unit :=
  understood called 1 (lastPartOptions.read arguments) fun options => do
    let isNull := options.has 'z'
    match options.has 'a' || options.has 's', options.operands with
    | _, [] => refuse called 1 .missingOperand
    | true, paths =>
        writeEach isNull (paths.map fun path => withoutEnding ((options.value? 's').getD []) (baseName path))
    | false, [path] => writeEach isNull [baseName path]
    | false, [path, ending] => writeEach isNull [withoutEnding ending (baseName path)]
    | false, _ :: _ :: extra :: _ => refuse called 1 (.extraOperand extra)

/-- The options of the program that gives paths without their last parts. -/
def abovePartOptions : OptionTable where
  plain := ['z']
  valued := []
  names := [("zero", 'z')]

/-- The program that gives paths without their last parts. -/
def runDirname (called : Text) (arguments : List Text) : Run Unit :=
  understood called 1 (abovePartOptions.read arguments) fun options =>
    if options.operands.isEmpty then refuse called 1 .missingOperand
    else writeEach (options.has 'z') (options.operands.map directoryName)

/-- A number with a fraction: its value in parts of a power of ten, and the exponent of that. -/
structure Fraction where
  value : Int
  places : Nat
deriving DecidableEq, Repr

/-- The number that a decimal stands for. -/
def fraction? (text : Text) : Option Fraction :=
  let (isNegative, digits) := match text with
    | '-' :: digits => (true, digits)
    | '+' :: digits => (false, digits)
    | digits => (false, digits)
  let whole := digits.takeWhile Char.isDigit
  let part? := match digits.drop whole.length with
    | [] => some []
    | '.' :: part => if part.all Char.isDigit then some part else none
    | _ => none
  match part? with
  | none => none
  | some part =>
      if whole = [] ∧ part = [] then none
      else
        let size : Int := Nat.ofDigitChars 10 (whole ++ part) 0
        some ⟨if isNegative then -size else size, part.length⟩

/-- A power of ten. -/
def powerOfTen (exponent : Nat) : Nat :=
  Nat.ofDigitChars 10 ('1' :: List.replicate exponent '0') 0

/-- The value of a number in parts of a greater power of ten. -/
def Fraction.scaled (number : Fraction) (places : Nat) : Int :=
  number.value * (powerOfTen (places - number.places) : Nat)

/-- A number in writing, from its value in parts of a power of ten. -/
def writtenFraction (value : Int) (places : Nat) : Text :=
  let digits := Text.decimal value.natAbs
  let digits := List.replicate (places + 1 - digits.length) '0' ++ digits
  let front := digits.take (digits.length - places)
  (if value < 0 then ['-'] else []) ++ front
    ++ if places = 0 then [] else '.' :: digits.drop (digits.length - places)

/-- The numbers from one to another in steps. -/
def numbers (first step last : Int) : List Int :=
  if step = 0 then []
  else
    (List.range ((last - first) / step + 1).toNat).map fun (index : Nat) => first + step * (index : Int)

/-- The options of the program that counts. -/
def seqOptions : OptionTable where
  plain := ['w']
  valued := ['f', 's']
  names := [("equal-width", 'w'), ("format", 'f'), ("separator", 's')]
  everywhere := false

/-- The arguments of the program that counts, of which the numbers below zero are no options. -/
def protectNumbers : List Text → List Text
  | [] => []
  | argument :: rest =>
      match argument with
      | '-' :: c :: _ =>
          if c.isDigit || c = '.' then ['-', '-'] :: argument :: rest
          else if argument = ['-', 's'] ∨ argument = ['-', 'f'] then
            argument :: rest.take 1 ++ protectNumbers (rest.drop 1)
          else argument :: protectNumbers rest
      | _ => argument :: rest
termination_by arguments => arguments.length

/-- The program that counts. -/
def runSeq (called : Text) (arguments : List Text) : Run Unit :=
  understood called 1 (seqOptions.read (protectNumbers arguments)) fun options => do
    let one : Fraction := ⟨1, 0⟩
    let bad := options.operands.find? fun text => (fraction? text).isNone
    match bad, options.operands.filterMap fraction? with
    | some text, _ =>
        refuse called 1 ⟨"invalid floating point argument: ".toList ++ singleQuoted text, true⟩
    | none, [] => refuse called 1 .missingOperand
    | none, _ :: _ :: _ :: _ :: _ => refuse called 1 (.extraOperand ((options.operands[3]?).getD []))
    | none, found =>
        let (first, step, last) := match found with
          | [last] => (one, one, last)
          | [first, last] => (first, one, last)
          | [first, step, last] => (first, step, last)
          | _ => (one, one, one)
        if step.value = 0 then
          refuse called 1 ⟨"invalid Zero increment value: ".toList
            ++ singleQuoted ((options.operands[1]?).getD []), true⟩
        else
          let places := max (max first.places step.places) last.places
          let shown := max first.places step.places
          let values := numbers (first.scaled places) (step.scaled places) (last.scaled places)
          let written (value : Int) : Text :=
            writtenFraction (value / (powerOfTen (places - shown) : Nat)) shown
          let texts := values.map written
          let width := (texts ++ [written (last.scaled places)]).foldl (fun width text => max width text.length) 0
          let filled (text : Text) : Text :=
            if options.has 'w' then
              let sign := text.takeWhile (· = '-')
              sign ++ List.replicate (width - text.length) '0' ++ text.drop sign.length
            else text
          write (List.intercalate ((options.value? 's').getD ['\n']) (texts.map filled))
          if values ≠ [] then write ['\n']
          finish 0

/-- The program that computes: it fails if the value is null. -/
def runExpr (called : Text) (arguments : List Text) : Run Unit := do
  match if arguments.head? = some "--".toList then arguments.drop 1 else arguments with
  | [] => refuse called 2 .missingOperand
  | texts =>
      match Calculation.value? texts with
      | none => refuse called 2 ⟨"syntax error".toList, false⟩
      | some value => do
          write (value ++ ['\n'])
          finish (if Calculation.isNull value then 1 else 0)

/-- The options of the programs that tell where names lead. -/
def leadingOptions : OptionTable where
  plain := ['f', 'e', 'm', 'n', 'q', 's', 'v', 'z', 'L', 'P']
  valued := ['→', '⊢']
  names := [("canonicalize", 'f'), ("canonicalize-existing", 'e'), ("canonicalize-missing", 'm'),
    ("no-newline", 'n'), ("quiet", 'q'), ("silent", 's'), ("verbose", 'v'), ("zero", 'z'),
    ("no-symlinks", 's'), ("strip", 's'), ("logical", 'L'), ("physical", 'P'), ("relative-to", '→'),
    ("relative-base", '⊢')]

/-- The place of a name in writing, whether or not anything is there. -/
def ShellState.placeInWriting (shell : ShellState) (follows : Bool) (name : Text) : Place :=
  let start := if name.head? = some '/' then [] else shell.place
  (Text.segments '/' name).foldl (fun place part =>
    if part = [] ∨ part = ['.'] then place
    else if part = ['.', '.'] then place.dropLast
    else
      let next := place ++ [part]
      if follows then (shell.resolve (Tree.Place.path next).text).toOption.getD next else next) start

/-- The place that a name leads to, as options ask: all of it has to be there, all but its last part, or
nothing. -/
def ShellState.canonical (shell : ShellState) (options : Arguments) (usual : Char) (name : Text) :
    Except SystemError Place :=
  match (options.lastOf? ['e', 'f', 'm']).getD usual with
  | 'e' => shell.resolve name
  | 'm' => if name = [] then .error .notFound else .ok (shell.placeInWriting true name)
  | _ => shell.placeFor (if withoutSlashes name = [] then name else withoutSlashes name)

/-- The program that tells where links lead. -/
def runReadlink (called : Text) (arguments : List Text) : Run Unit :=
  understood called 1 (leadingOptions.read arguments) fun options => do
    let shell ← get
    let target (name : Text) : Except SystemError Text := do
      if ['e', 'f', 'm'].any options.has then
        pure (Tree.Place.path (← shell.canonical options 'f' name)).text
      else
        match shell.tree.node? (← shell.placeOfName name) with
        | some (.link target) => pure target
        | _ => throw .invalidArgument
    if options.operands.isEmpty then refuse called 1 .missingOperand
    else
      let ending := if options.has 'n' && options.operands.length = 1 then []
        else [if options.has 'z' then '\x00' else '\n']
      onEach options.operands fun name =>
        match target name with
        | .ok text => do
            write (text ++ ending)
            pure true
        | .error cause => do
            if options.has 'v' then complainOf called name cause 1
            pure false

/-- The program that tells the paths of names without links in them. -/
def runRealpath (called : Text) (arguments : List Text) : Run Unit :=
  understood called 1 (leadingOptions.read arguments) fun options => do
    let shell ← get
    let start := (options.value? '→').map (shell.placeInWriting true)
    if options.operands.isEmpty then refuse called 1 .missingOperand
    else onEach options.operands fun name =>
      let found := if options.has 's' && name ≠ [] then .ok (shell.placeInWriting false name)
        else shell.canonical options 'f' name
      match found with
      | .ok place => do
          let text := match start with
            | some start => wayBetween start place
            | none => (Tree.Place.path place).text
          write (text ++ [if options.has 'z' then '\x00' else '\n'])
          pure true
      | .error cause => do
          unless options.has 'q' do complainOf called name cause 1
          pure false

/-- The options of the program that tells who a script runs for. -/
def identityOptions : OptionTable where
  plain := ['a', 'g', 'G', 'n', 'r', 'u', 'z', 'Z']
  valued := []
  names := [("group", 'g'), ("groups", 'G'), ("name", 'n'), ("real", 'r'), ("user", 'u'), ("zero", 'z')]

/-- Tells who a script runs for. -/
def runIdentity (called : Text) (arguments : List Text) : Run Unit :=
  understood called 1 (identityOptions.read arguments) fun options => do
    match options.operands.find? fun user => user ≠ "root".toList && user ≠ ['0'] with
    | some user => refuse called 1 ⟨singleQuoted user ++ ": no such user".toList, false⟩
    | none =>
        if ['g', 'G', 'u'].any options.has then
          writeLine (if options.has 'n' then "root".toList else ['0'])
        else if options.has 'n' || options.has 'r' then
          refuse called 1 ⟨"printing only names or real IDs requires -u, -g, or -G".toList, false⟩
        else writeLine "uid=0(root) gid=0(root) groups=0(root)".toList

/-- The options of the program that tells values of the environment. -/
def valueOptions : OptionTable where
  plain := ['0']
  valued := []
  names := [("null", '0')]
  everywhere := false

/-- Tells what programs see of the parameters: all, or the values of some. -/
def runEnvironment (called : Text) (arguments : List Text) : Run Unit :=
  understood called 2 (valueOptions.read arguments) fun options => do
    let shell ← get
    let ending := if options.has '0' then '\x00' else '\n'
    if options.operands.isEmpty then
      write (environmentLines ending shell)
      finish 0
    else
      let values := options.operands.map fun name => (shell.environment.lookup name).bind (·.value)
      write (values.flatMap fun value => match value with
        | some value => value ++ [ending]
        | none => [])
      finish (if values.all Option.isSome then 0 else 1)

/-- Tells where programs are. -/
def runWhich (arguments : List Text) : Run Unit := do
  let shell ← get
  let paths := (afterOptions [] arguments).map (programPath? shell)
  write (paths.flatMap fun path => match path with
    | some path => path ++ ['\n']
    | none => [])
  finish (if paths ≠ [] ∧ paths.all Option.isSome = true then 0 else 1)

/-- What the program that prints its arguments is asked for by the letters in front of them: whether it ends the
line, and whether backslashes have a meaning. -/
def echoLetters (newline meaning : Bool) : List Text → Bool × Bool × List Text
  | argument :: rest =>
      match argument with
      | '-' :: letter :: letters =>
          if (letter :: letters).all fun c => c = 'n' || c = 'e' || c = 'E' then
            let meaning := ((letter :: letters).reverse.find? (· ≠ 'n')).elim meaning (· = 'e')
            echoLetters (newline && !(letter :: letters).contains 'n') meaning rest
          else (newline, meaning, argument :: rest)
      | _ => (newline, meaning, argument :: rest)
  | [] => (newline, meaning, [])

/-- The program that prints its arguments. -/
def runEcho (arguments : List Text) : Run Unit := do
  let (newline, meaning, texts) := echoLetters true false arguments
  let ending := if newline then ['\n'] else []
  write (if meaning then Printing.spaced Printing.resolveAll ending texts else List.intercalate [' '] texts ++ ending)
  finish 0

end SecureShell.Rehearsal.Shell
