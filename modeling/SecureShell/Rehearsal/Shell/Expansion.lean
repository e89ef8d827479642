/-
Module: SecureShell.Rehearsal.Shell.Expansion
Purpose: The places in a word are filled in when its command runs: home directories behind tildes, values
  of parameters and what becomes of them, arithmetic, and what other commands write. The result is split
  into fields where a command wants its arguments, and is one text elsewhere.
Main exports: Collector, fillPieces, fillText, fillFields, fillAssignment
-/
import SecureShell.Rehearsal.Shell.Arithmetic
import SecureShell.Rehearsal.Shell.Globbing

namespace SecureShell.Rehearsal.Shell

/-- Runs commands and gives what they write. -/
abbrev Collector := List Script → Run Text

/-- What a command has written as a value, which has neither null characters nor line feeds at its end. -/
def writtenValue (text : Text) : Text :=
  ((text.filter (· ≠ '\x00')).reverse.dropWhile (· = '\n')).reverse

/-- The home directory of a user; without a name, of the one that the shell runs for. -/
def ShellState.home? (shell : ShellState) (user : Text) : Option Text :=
  if user = [] then shell.value? "HOME"
  else if user = "root".toList then some "/root".toList
  else none

/-- The name of the user behind a tilde. What is quoted or filled in names none. -/
def tildeUser? (inAssignment : Bool) : Word → Option Text
  | [] => some []
  | .char c false :: rest =>
      if c = '/' ∨ (c = ':' ∧ inAssignment = true) then some []
      else (tildeUser? inAssignment rest).map (c :: ·)
  | _ => none

/-- The home directory that a tilde at the beginning of a word stands for, and the word behind the name of
the user. -/
def tildeHome? (shell : ShellState) (inAssignment : Bool) : Word → Option (Text × Word)
  | .char '~' false :: rest => do
      let user ← tildeUser? inAssignment rest
      pure (← shell.home? user, rest.drop user.length)
  | _ => none

/-- A word with a home directory in the place of a tilde at its beginning. -/
def withHome (shell : ShellState) (inAssignment : Bool) (word : Word) : Word :=
  match tildeHome? shell inAssignment word with
  | some (home, rest) => Word.literal home ++ rest
  | none => word

/-- The parts of a word between its colons. -/
def colonParts : Word → List Word
  | [] => [[]]
  | fragment :: rest =>
      let parts := colonParts rest
      match fragment with
      | .char ':' false => [] :: parts
      | fragment => match parts with
          | [] => [[fragment]]
          | first :: others => (fragment :: first) :: others

/-- An assigned word with home directories in the places of tildes at its beginning and behind colons. -/
def withHomes (shell : ShellState) (word : Word) : Word :=
  List.intercalate [.char ':' false] ((colonParts word).map (withHome shell true))

/-- The names of the parameters that stand for all arguments. -/
def isArguments (name : Text) : Bool :=
  name = ['@'] || name = ['*']

/-- What stands between arguments that are joined. -/
def ShellState.joint (shell : ShellState) : Text :=
  match shell.value? "IFS" with
  | none => [' ']
  | some separators => separators.take 1

/-- The value of a parameter, if it is set. -/
def ShellState.text? (shell : ShellState) (name : Text) : Option Text :=
  match name with
  | ['?'] => some (Text.decimal shell.status)
  | ['#'] => some (Text.decimal shell.arguments.length)
  | ['-'] => some shell.options.writing
  | ['$'] => some (Text.decimal shell.process)
  | ['!'] => shell.lastJob.map Text.decimal
  | name =>
      if isArguments name then some (List.intercalate shell.joint shell.arguments)
      else if name.all Char.isDigit then
        match Nat.ofDigitChars 10 name 0 with
        | 0 => some shell.name
        | index + 1 => shell.arguments[index]?
      else (shell.parameter? name).bind (·.value)

/-- Whether a parameter stands for all arguments and keeps them apart. -/
def keepsApart (name : Text) (quoted : Bool) : Bool :=
  name = ['@'] || (name = ['*'] && !quoted)

/-- The pieces of the value of a parameter. -/
def valuePieces (name : Text) (quoted : Bool) : Run (List Piece) := do
  let shell ← get
  if keepsApart name quoted then pure (argumentsIn shell.arguments quoted)
  else
    match shell.text? name with
    | some value => pure (filledIn value quoted)
    | none =>
        if shell.options.needsParameters then mistake (.missingValue name false) else pure []

/-- The pieces of a value from which a pattern is taken away. Arguments that are kept apart lose it as one
text, with a character between them that no argument holds. -/
def trimmedPieces (shell : ShellState) (name value : Text) (trim : Text → Text) (quoted : Bool) :
    List Piece :=
  if keepsApart name quoted then
    let whole := List.intercalate ['\x00'] shell.arguments
    argumentsIn (Text.segments '\x00' (trim whole)) quoted
  else filledIn (trim value) quoted

/-- The value of a parameter that counts as present. -/
def ShellState.present? (shell : ShellState) (evenEmpty : Bool) (name : Text) : Option Text :=
  (shell.text? name).filter fun value => !(evenEmpty && value = [])

/-- The length of a value; that of all arguments together counts what joins them. -/
def ShellState.lengthOf (shell : ShellState) (name : Text) : Nat :=
  ((shell.text? name).getD []).length

/-- Computes an expression and sets the parameters that it assigns. -/
def compute (expression : Text) : Run Int := do
  let shell ← get
  match Arithmetic.value? (fun name => (shell.text? name).getD []) expression with
  | none => throw .mistaken
  | some (value, assigned) =>
      assigned.reverse.forM fun (name, value) => assign name (Arithmetic.written value)
      pure value

/-- How deep places in words may stand in one another. -/
def wordDepth : Nat := 5000

/-- Fills in a fragment. Inside the braces of a parameter that is not quoted even plain characters can
split. `levels` bounds how deep fragments stand in one another. -/
def fillFragment (collector : Collector) : (levels : Nat) → (plainSplits : Bool) → Fragment →
    Run (List Piece)
  | 0, _, _ => blocked
  | levels + 1, plainSplits, fragment =>
      let fill (quoted : Bool) (word : Word) : Run (List Piece) := do
        let shell ← get
        let word := if quoted then word else withHome shell false word
        let pieces ← word.mapM (fillFragment collector levels (!quoted))
        pure pieces.flatten
      let fillWhole (quoted : Bool) (word : Word) : Run Field := do
        let pieces ← fill quoted word
        pure (wholeField (← get).joint pieces)
      match fragment with
      | .char c quoted => pure [.char c quoted (plainSplits && !quoted)]
      | .quotes => pure [.mark]
      | .arithmetic expression quoted => do
          let value ← compute (Cell.text (← fillWhole true expression))
          pure (filledIn (Arithmetic.written value) quoted)
      | .command body quoted => do
          pure (filledIn (writtenValue (← collector body)) quoted)
      | .parameter name use quoted => do
          let shell ← get
          match use with
          | .value => valuePieces name quoted
          | .length =>
              if shell.options.needsParameters && (shell.text? name).isNone then
                mistake (.missingValue name false)
              else pure (filledIn (Text.decimal (shell.lengthOf name)) quoted)
          | .orElse evenEmpty word =>
              if (shell.present? evenEmpty name).isSome then valuePieces name quoted
              else fill quoted word
          | .ifPresent evenEmpty word =>
              if (shell.present? evenEmpty name).isSome then fill quoted word else pure []
          | .orAssign evenEmpty word =>
              if (shell.present? evenEmpty name).isSome then valuePieces name quoted
              else
                let value := Cell.text (← fillWhole quoted word)
                if isName name then
                  assign name value
                  pure (filledIn value quoted)
                else mistake (.badName name)
          | .orFail evenEmpty word =>
              if (shell.present? evenEmpty name).isSome then valuePieces name quoted
              else if word.isEmpty then mistake (.missingValue name evenEmpty)
              else
                let reason := Cell.text (← fillWhole quoted word)
                mistake (.missing name reason)
          | .trimmed atEnd longest pattern =>
              match shell.text? name with
              | some value =>
                  let cells ← fillWhole false pattern
                  let trim := (Pattern.ofCells cells).trim atEnd longest
                  pure (trimmedPieces shell name value trim quoted)
              | none =>
                  if shell.options.needsParameters then mistake (.missingValue name false) else pure []
          | .unknown => mistake .badSubstitution

/-- The pieces of a word. -/
def fillPieces (collector : Collector) (word : Word) : Run (List Piece) := do
  pure (← word.mapM (fillFragment collector wordDepth false)).flatten

/-- The characters of a word that is not split. -/
def fillCells (collector : Collector) (word : Word) : Run (List Cell) := do
  let pieces ← fillPieces collector (withHome (← get) false word)
  pure (wholeField (← get).joint pieces)

/-- The text of a word that is not split. -/
def fillText (collector : Collector) (word : Word) : Run Text := do
  pure (Cell.text (← fillCells collector word))

/-- The text of a document, in which a tilde has no meaning. -/
def fillDocument (collector : Collector) (word : Word) : Run Text := do
  let pieces ← fillPieces collector word
  pure (Cell.text (wholeField (← get).joint pieces))

/-- The value of a word that is assigned. -/
def fillAssignment (collector : Collector) (word : Word) : Run Text := do
  let pieces ← fillPieces collector (withHomes (← get) word)
  pure (Cell.text (wholeField (← get).joint pieces))

/-- The fields of a word. -/
def fillFields (collector : Collector) (word : Word) : Run (List Text) := do
  let pieces ← fillPieces collector (withHome (← get) false word)
  let shell ← get
  pure ((splitFields shell.separators pieces).flatMap (fileNames shell))

/-- The fields of words. -/
def fillAll (collector : Collector) (words : List Word) : Run (List Text) := do
  pure (← words.mapM (fillFields collector)).flatten

end SecureShell.Rehearsal.Shell
