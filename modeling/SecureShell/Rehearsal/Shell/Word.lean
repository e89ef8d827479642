/-
Module: SecureShell.Rehearsal.Shell.Word
Purpose: Words are read from the text of a script. Quotes and backslashes are resolved here; a dollar sign
  or backquotes begin a place that is filled in later. The scripts inside such places are read by a reader
  of commands that is handed in.
Main exports: Ground, readFragments, readWord, plainText
-/
import SecureShell.Rehearsal.Shell.Script

namespace SecureShell.Rehearsal.Shell

/-- Reads commands up to the sign that ends them, and tells what is left from that sign on. -/
abbrev CommandReader := Text → Option (List Script × Text)

/-- Where fragments stand, which decides what is special and what ends them. -/
inductive Ground where
  | bare
  | quoted
  | braced (inQuotes : Bool)
  | document
deriving DecidableEq, Repr

namespace Ground

/-- Whether everything on this ground is quoted. -/
def isQuoted : Ground → Bool
  | bare => false
  | quoted => true
  | braced inQuotes => inQuotes
  | document => true

end Ground

/-- Whether a character ends a word that is not quoted. -/
def endsWord (c : Char) : Bool :=
  c ∈ [' ', '\t', '\n', ';', '&', '|', '<', '>', '(', ')']

/-- The signs that quote something or are filled in. -/
def isActiveSign (c : Char) : Bool :=
  c ∈ ['\'', '"', '\\', '$', '\u0060']

/-- A text without the hidden line ends in front; a backslash hides a line end. -/
def dropBreaks : Text → Text
  | '\\' :: '\n' :: rest => dropBreaks rest
  | text => text

/-- The characters in front that have a property, and the text behind them. Hidden line ends among them are
passed over. -/
def cutWhile (holds : Char → Bool) : Text → Text × Text
  | [] => ([], [])
  | '\\' :: '\n' :: rest => cutWhile holds rest
  | c :: rest =>
      if holds c then
        let (front, behind) := cutWhile holds rest
        (c :: front, behind)
      else ([], c :: rest)

/-- A text without the hidden line ends in its first word or operator, as far as nothing is quoted there. -/
def withoutBreaks : Text → Text
  | [] => []
  | '\\' :: '\n' :: rest => withoutBreaks rest
  | c :: rest =>
      if isActiveSign c || c ∈ [' ', '\t', '\n', '#'] then c :: rest else c :: withoutBreaks rest

/-- Whether a character ends the fragments on a ground. -/
def Ground.isEnd (ground : Ground) (c : Char) : Bool :=
  match ground with
  | bare => endsWord c
  | quoted => c = '"'
  | braced _ => c = '}'
  | document => false

/-- The fragments for a backslash and the character behind it, the last one first. Among quoted text a
backslash takes away a special meaning and is an ordinary character otherwise. -/
def Ground.escaped (ground : Ground) (c : Char) : Word :=
  let special := c ∈ ['$', '\\', '\u0060']
    || (c = '"' && ground ≠ .document) || (c = '}' && ground = .braced true)
  if ground.isQuoted && !special then [.char c true, .char '\\' true] else [.char c true]

/-- The script between backquotes, in which a backslash protects a few characters, and the text behind
it. -/
def cutBackquoted (quoted : Bool) : Text → Option (Text × Text)
  | [] => none
  | '\u0060' :: rest => some ([], rest)
  | '\\' :: '\n' :: rest => cutBackquoted quoted rest
  | '\\' :: c :: rest =>
      let kept := if c ∈ ['$', '\\', '\u0060'] || (quoted && c = '"') then [c] else ['\\', c]
      (cutBackquoted quoted rest).map fun cut => (kept ++ cut.1, cut.2)
  | c :: rest => (cutBackquoted quoted rest).map fun cut => (c :: cut.1, cut.2)

/-- The fragments between double quotes together with what keeps the quotes: nothing, if all arguments and
nothing else stand between them. -/
def keepQuotes (inside : Word) : Word :=
  match inside with
  | [.parameter ['@'] .value true] => inside
  | _ => .quotes :: inside

/-- The name of a parameter in braces and the text behind it: a name, digits, or a special character. -/
def cutName : Text → Option (Text × Text)
  | [] => none
  | c :: rest =>
      if isNameStart c then some (cutWhile isNameChar (c :: rest))
      else if c.isDigit then some (cutWhile Char.isDigit (c :: rest))
      else if isSpecialName c then some ([c], dropBreaks rest)
      else none

/-- Whether the text behind a number sign in braces asks for a length. -/
def asksLength (text : Text) : Bool :=
  match text with
  | c :: next :: _ => isNameChar c || (c ≠ '}' && next = '}')
  | _ => false

/-- The use of a parameter that an operator in braces asks for, given the word behind it, and whether that
word is a pattern; with it the text behind the operator. -/
def cutOperator : Text → Option ((Word → Use) × Bool × Text)
  | ':' :: '-' :: rest => some (.orElse true, false, rest)
  | '-' :: rest => some (.orElse false, false, rest)
  | ':' :: '=' :: rest => some (.orAssign true, false, rest)
  | '=' :: rest => some (.orAssign false, false, rest)
  | ':' :: '?' :: rest => some (.orFail true, false, rest)
  | '?' :: rest => some (.orFail false, false, rest)
  | ':' :: '+' :: rest => some (.ifPresent true, false, rest)
  | '+' :: rest => some (.ifPresent false, false, rest)
  | '%' :: '%' :: rest => some (.trimmed true true, true, rest)
  | '%' :: rest => some (.trimmed true false, true, rest)
  | '#' :: '#' :: rest => some (.trimmed false true, true, rest)
  | '#' :: rest => some (.trimmed false false, true, rest)
  | _ => none

mutual

/-- Reads fragments up to the end that their ground knows. `fuel` bounds the steps; `before` holds the
fragments read so far, the last one first. -/
def readFragments (commands : CommandReader) :
    (fuel : Nat) → Ground → (before : Word) → Text → Option (Word × Text)
  | 0, _, _, _ => none
  | _, ground, before, [] =>
      if ground = .bare ∨ ground = .document then some (before.reverse, []) else none
  | fuel + 1, ground, before, c :: rest =>
      if ground.isEnd c then some (before.reverse, if ground = .bare then c :: rest else rest)
      else if c = '\\' then
        match rest with
        | '\n' :: behind => readFragments commands fuel ground before behind
        | next :: behind =>
            readFragments commands fuel ground (ground.escaped next ++ before) behind
        | [] => readFragments commands fuel ground (.char c true :: before) []
      else if c = '$' then do
        let (fragment, behind) ← readDollar commands fuel ground.isQuoted rest
        readFragments commands fuel ground (fragment :: before) behind
      else if c = '\u0060' then do
        let (script, behind) ← cutBackquoted ground.isQuoted rest
        let (body, _) ← commands script
        readFragments commands fuel ground (.command body ground.isQuoted :: before) behind
      else if c = '\'' ∧ ground.isQuoted = false then
        match rest.dropWhile (· ≠ '\'') with
        | _ :: behind =>
            let inside := Word.literal (rest.takeWhile (· ≠ '\''))
            readFragments commands fuel ground (inside.reverse ++ .quotes :: before) behind
        | [] => none
      else if c = '"' ∧ ground ≠ .document then
        if ground.isQuoted then readFragments commands fuel ground before rest
        else do
          let (inside, behind) ← readFragments commands fuel .quoted [] rest
          readFragments commands fuel ground ((keepQuotes inside).reverse ++ before) behind
      else readFragments commands fuel ground (.char c ground.isQuoted :: before) rest

/-- Reads what a dollar sign stands for. Without a meaning it stands for itself. -/
def readDollar (commands : CommandReader) :
    (fuel : Nat) → (quoted : Bool) → Text → Option (Fragment × Text)
  | 0, _, _ => none
  | fuel + 1, quoted, text =>
      match dropBreaks text with
      | '(' :: rest =>
          match dropBreaks rest with
          | '(' :: rest => do
              let (expression, behind) ← readExpression commands fuel 0 [] rest
              pure (.arithmetic expression quoted, behind)
          | rest => do
              match ← commands rest with
              | (body, ')' :: behind) => pure (.command body quoted, behind)
              | _ => none
      | '{' :: rest => readBraced commands fuel quoted (dropBreaks rest)
      | c :: rest =>
          if isNameStart c then
            let (name, behind) := cutWhile isNameChar (c :: rest)
            some (.parameter name .value quoted, behind)
          else if isSpecialName c then some (.parameter [c] .value quoted, rest)
          else some (.char '$' quoted, c :: rest)
      | [] => some (.char '$' quoted, [])

/-- Reads a parameter in braces up to the closing brace. -/
def readBraced (commands : CommandReader) :
    (fuel : Nat) → (quoted : Bool) → Text → Option (Fragment × Text)
  | 0, _, _ => none
  | fuel + 1, quoted, text =>
      let behindSign := dropBreaks (text.drop 1)
      let isLength := text.head? = some '#' ∧ asksLength behindSign = true
      match cutName (if isLength then behindSign else text) with
      | some (name, '}' :: behind) =>
          some (.parameter name (if isLength then .length else .value) quoted, behind)
      | some (name, rest) =>
          match if isLength then none else cutOperator (rest.take 1 ++ dropBreaks (rest.drop 1)) with
          | some (use, isPattern, rest) => do
              let ground := Ground.braced (quoted && !isPattern)
              let (word, behind) ← readFragments commands fuel ground [] rest
              pure (.parameter name (use word) quoted, behind)
          | none => do
              let (_, behind) ← readFragments commands fuel (.braced quoted) [] rest
              pure (.parameter name .unknown quoted, behind)
      | none => do
          let (_, behind) ← readFragments commands fuel (.braced quoted) [] text
          pure (.parameter [] .unknown quoted, behind)

/-- Reads an arithmetic expression up to the two parentheses that close it. -/
def readExpression (commands : CommandReader) :
    (fuel : Nat) → (depth : Nat) → (before : Word) → Text → Option (Word × Text)
  | 0, _, _, _ => none
  | _, _, _, [] => none
  | fuel + 1, depth, before, c :: rest =>
      if c = '(' then readExpression commands fuel (depth + 1) (.char c true :: before) rest
      else if c = ')' then
        match depth, dropBreaks rest with
        | 0, ')' :: behind => some (before.reverse, behind)
        | 0, rest => readExpression commands fuel 0 (.char c true :: before) rest
        | less + 1, rest => readExpression commands fuel less (.char c true :: before) rest
      else if c = '\\' then
        match rest with
        | '\n' :: behind => readExpression commands fuel depth before behind
        | next :: behind =>
            readExpression commands fuel depth (Ground.quoted.escaped next ++ before) behind
        | [] => none
      else if c = '$' then do
        let (fragment, behind) ← readDollar commands fuel true rest
        readExpression commands fuel depth (fragment :: before) behind
      else if c = '\u0060' then do
        let (script, behind) ← cutBackquoted true rest
        let (body, _) ← commands script
        readExpression commands fuel depth (.command body true :: before) behind
      else readExpression commands fuel depth (.char c true :: before) rest

end

/-- Reads a word that stands at the beginning of a text, if one does. -/
def readWord (commands : CommandReader) (fuel : Nat) (text : Text) : Option (Word × Text) :=
  match text with
  | [] => none
  | c :: _ => if endsWord c then none else readFragments commands fuel .bare [] text

/-- The text of a word in which nothing is quoted or filled in. -/
def plainText : Word → Option Text
  | [] => some []
  | .char c false :: rest => (plainText rest).map (c :: ·)
  | _ => none

/-- The text of a word as it is written when only quotes are taken away. -/
def unquotedText : Word → Text
  | [] => []
  | .char c _ :: rest => c :: unquotedText rest
  | _ :: rest => unquotedText rest

/-- Whether a word has no place to fill in. -/
def isPlain (word : Word) : Bool :=
  word.all fun fragment => match fragment with
    | .char _ _ => true
    | .quotes => true
    | _ => false

/-- Whether a word has no quoted part. -/
def isUnquoted (word : Word) : Bool :=
  word.all fun fragment => match fragment with
    | .char _ quoted => !quoted
    | .quotes => false
    | .arithmetic _ quoted => !quoted
    | .command _ quoted => !quoted
    | .parameter _ _ quoted => !quoted

end SecureShell.Rehearsal.Shell
