/-
Module: SecureShell.Rehearsal.Shell.RecordReading
Purpose: How programs are read that deal with records. Operators bind the more tightly the higher their level is; a
  reader of each level is given one for all levels.
Main exports: RecordReading.readExpression, RecordReading.readRules
-/
import SecureShell.Rehearsal.Shell.ExpressionSigns
import SecureShell.Rehearsal.Shell.RecordScript
import SecureShell.Rehearsal.Shell.RecordTokens

namespace SecureShell.Rehearsal.Shell

namespace RecordReading

/-- What reads something at the beginning of tokens, and leaves the others. -/
abbrev Reader (α : Type) := List RecordToken → Except RecordFault (α × List RecordToken)

/-- How tightly the operators bind that are read. -/
inductive Level where
  | whole
  | either
  | both
  | isIn
  | match
  | compare
  | join
  | add
  | multiply
  | sign
  | power
  | operand
deriving DecidableEq, Repr

/-- A reader of terms for all levels. What is printed cannot be compared by the sign that stands before a file. -/
abbrev TermReader := (isPrinted : Bool) → Level → Reader RecordTerm

/-- The refusal of the first of some tokens. -/
def refuse {α : Type} (tokens : List RecordToken) : Except RecordFault α :=
  let words : String := "syntax error at or near "
  match tokens with
  | [] => .error ⟨0, [], 0, true⟩
  | token :: rest =>
      .error ⟨token.line, words.toList ++ token.shown, rest.length, true⟩

/-- Whether a sign comes first. -/
def startsWith (sign : String) (tokens : List RecordToken) : Bool :=
  tokens.head?.any fun token => token.kind == .sign sign

/-- Whether a word comes first. -/
def startsWithWord (word : String) (tokens : List RecordToken) : Bool :=
  tokens.head?.any fun token => token.kind == .word word

/-- Tokens without the ends of lines in front. -/
def skipLines (tokens : List RecordToken) : List RecordToken :=
  tokens.dropWhile fun token => token.kind == .lineEnd

/-- Reads a sign that has to be there. -/
def expect (sign : String) (tokens : List RecordToken) : Except RecordFault (List RecordToken) :=
  match tokens with
  | token :: rest => if token.kind == .sign sign then .ok rest else refuse tokens
  | [] => refuse []

/-- Reads terms with commas between them. `fuel` bounds their number. -/
def readTerms (term : Reader RecordTerm) : (fuel : Nat) → Reader (List RecordTerm)
  | 0, tokens => refuse tokens
  | fuel + 1, tokens => do
      let (first, rest) ← term tokens
      if startsWith "," rest then
        let (others, rest) ← readTerms term fuel (skipLines (rest.drop 1))
        pure (first :: others, rest)
      else pure ([first], rest)

/-- Reads terms behind a bracket up to the closing one. -/
def readArguments (go : TermReader) : Reader (List RecordTerm) := fun tokens => do
  if startsWith ")" tokens then pure ([], tokens.drop 1)
  else
    let (arguments, rest) ← readTerms (go false .whole) tokens.length tokens
    pure (arguments, ← expect ")" rest)

/-- The functions of the language, by their names, with the least and the greatest number of arguments. -/
def functions : List (String × RecordFunction × Nat × Nat) :=
  [ ("length", .length, 0, 1), ("substr", .substring, 2, 3), ("index", .index, 2, 2), ("split", .split, 2, 3),
    ("sub", .replaceFirst, 2, 3), ("gsub", .replaceAll, 2, 3), ("match", .findPart, 2, 2),
    ("sprintf", .format, 1, 255), ("sin", .sine, 1, 1), ("cos", .cosine, 1, 1), ("atan2", .arcTangent, 2, 2),
    ("exp", .exponential, 1, 1), ("log", .logarithm, 1, 1), ("sqrt", .root, 1, 1), ("int", .whole, 1, 1),
    ("rand", .random, 0, 0), ("srand", .seed, 0, 1), ("tolower", .lower, 1, 1), ("toupper", .upper, 1, 1),
    ("system", .run, 1, 1), ("close", .close, 1, 1), ("fflush", .flush, 0, 1), ("systime", .time, 0, 0) ]

/-- Whether a term is something to which a value can be given. -/
def isGoal : RecordTerm → Bool
  | .variable _ => true
  | .element _ _ => true
  | .field _ => true
  | _ => false

/-- The operation of an assignment, by its sign; a plain one has none. -/
def assignment? (sign : String) : Option (Option RecordOperation) :=
  match sign with
  | "=" => some none
  | "+=" => some (some .add)
  | "-=" => some (some .subtract)
  | "*=" => some (some .multiply)
  | "/=" => some (some .divide)
  | "%=" => some (some .remainder)
  | "^=" => some (some .power)
  | _ => none

/-- An expression as it is written for others: with the characters that are named behind backslashes, and without
backslashes where they protect nothing. `fuel` bounds the steps. -/
def rewritten : (fuel : Nat) → (inBrackets : Bool) → Text → Text
  | 0, _, text => text
  | _, _, [] => []
  | _, _, ['\\'] => ['\\', '\\']
  | fuel + 1, inBrackets, '\\' :: rest =>
      let (c, rest) := (RecordToken.namedChar? rest).getD (rest.headD '\\', rest.drop 1)
      let isSign := if inBrackets then "]-^[".toList.contains c else ".[]()*+?{}|^$\\".toList.contains c
      let written := if !isSign then [c] else if inBrackets then ['[', '.', c, '.', ']'] else ['\\', c]
      written ++ rewritten fuel inBrackets rest
  | fuel + 1, false, '[' :: rest =>
      let head := if rest.head? = some '^' then ['^'] else []
      let behind := rest.drop head.length
      let head := if behind.head? = some ']' then head ++ [']'] else head
      '[' :: head ++ rewritten fuel true (rest.drop head.length)
  | fuel + 1, true, '[' :: ':' :: rest =>
      let name := rest.takeWhile (· ≠ ']')
      '[' :: ':' :: name ++ ']' :: rewritten fuel true (rest.drop (name.length + 1))
  | fuel + 1, inBrackets, c :: rest => c :: rewritten fuel (inBrackets && c ≠ ']') rest

/-- The words for an expression that cannot be read. -/
def expressionFault (fault : ExpressionFault) (written : Text) : Text :=
  let words := match fault with
    | .unmatchedOpening => "missing ')'"
    | .unmatchedBracket => "bad class -- [], [^] or ["
    | .badClass => "bad class -- [], [^] or ["
    | .malformed => "bad class -- [], [^] or ["
    | .badBounds => "bad interval expression"
    | _ => "missing operand"
  "regular expression compile failed (".toList ++ words.toList ++ ")\n".toList ++ written

/-- Reads an expression, or tells what is wrong with it. -/
def readExpression (written : Text) : Except Text Expression :=
  (Expression.read .strict (rewritten (written.length + 1) false written)).mapError (expressionFault · written)

/-- A term that stands for an expression: a text that is written is read as one. -/
def asExpression (term : RecordTerm) (behind : List RecordToken) : Except RecordFault RecordTerm :=
  match term with
  | .text written =>
      match readExpression written with
      | .ok expression => .ok (.expression expression)
      | .error words => .error ⟨(behind.head?.map (·.line)).getD 0, words, behind.length, true⟩
  | term => .ok term

/-- Reads the arguments behind a bracket of a function that splits a text into a table. -/
def readSplit (go : TermReader) : Reader RecordTerm := fun tokens => do
  let (text, rest) ← go false .whole tokens
  if !startsWith "," rest then refuse rest
  let behind := skipLines (rest.drop 1)
  match behind with
  | ⟨.name table, _, _⟩ :: rest => do
      if startsWith "," rest then
        let (separator, rest) ← go false .whole (skipLines (rest.drop 1))
        pure (.apply .split [text, .variable table, separator], ← expect ")" rest)
      else if startsWith ")" rest then pure (.apply .split [text, .variable table], rest.drop 1)
      else refuse rest
  | behind => refuse behind

/-- Reads the arguments behind a bracket of a function that replaces parts of what a value can be given to. -/
def readReplacing (go : TermReader) (function : RecordFunction) : Reader RecordTerm := fun tokens => do
  let (expression, rest) ← go false .whole tokens
  let expression ← asExpression expression rest
  if !startsWith "," rest then refuse rest
  let (written, rest) ← go false .whole (skipLines (rest.drop 1))
  if startsWith "," rest then
    let behind := skipLines (rest.drop 1)
    let (goal, rest) ← go false .whole behind
    if !isGoal goal then refuse behind
    pure (.apply function [expression, written, goal], ← expect ")" rest)
  else pure (.apply function [expression, written], ← expect ")" rest)

/-- Reads a call of a function of the language, behind its name in a line. -/
def readFunction (go : TermReader) (line : Nat) (name : String) (found : RecordFunction × Nat × Nat) :
    Reader RecordTerm := fun tokens => do
  let (function, least, most) := found
  if startsWith "(" tokens then
    if function = .split then return ← readSplit go (tokens.drop 1)
    if function = .replaceFirst ∨ function = .replaceAll then return ← readReplacing go function (tokens.drop 1)
    let (arguments, rest) ← readArguments go (tokens.drop 1)
    if arguments.length < least ∨ most < arguments.length then
      if function = .length then refuse (tokens.drop 2)
      else throw ⟨line, "wrong number of arguments in call to ".toList ++ name.toList, rest.length, true⟩
    match function, arguments with
    | .findPart, [text, expression] => do
        pure (.apply function [text, ← asExpression expression rest], rest)
    | function, arguments => pure (.apply function arguments, rest)
  else if function = .length then pure (.apply .length [], tokens)
  else refuse tokens

/-- Reads a variable, an element or a field, if one comes first. -/
def readGoal? (go : TermReader) (tokens : List RecordToken) :
    Except RecordFault (Option (RecordTerm × List RecordToken)) := do
  match tokens with
  | ⟨.name name, _, _⟩ :: rest =>
      if (functions.lookup (String.ofList name)).isSome then pure none
      else if startsWith "[" rest then
        let (index, rest) ← readTerms (go false .whole) rest.length (rest.drop 1)
        pure (some (.element name index, ← expect "]" rest))
      else pure (some (.variable name, rest))
  | ⟨.sign "$", _, _⟩ :: rest => do
      let (number, rest) ← match rest with
        | ⟨.sign "-", _, _⟩ :: rest => do
            let (number, rest) ← go false .operand rest
            pure (RecordTerm.negative number, rest)
        | ⟨.sign "++", _, _⟩ :: rest => do
            let (goal, rest) ← go false .operand rest
            pure (RecordTerm.step goal true true, rest)
        | ⟨.sign "--", _, _⟩ :: rest => do
            let (goal, rest) ← go false .operand rest
            pure (RecordTerm.step goal false true, rest)
        | rest => do
            let (number, rest) ← go false .operand rest
            match number, rest with
            | .variable name, ⟨.sign sign, _, _⟩ :: behind =>
                if name = "NF".toList ∧ (sign = "++" ∨ sign = "--") then
                  pure (.step number (sign = "++") false, behind)
                else pure (number, rest)
            | .field _, ⟨.sign sign, _, _⟩ :: behind =>
                if sign = "++" ∨ sign = "--" then pure (.step number (sign = "++") false, behind)
                else pure (number, rest)
            | _, _ => pure (number, rest)
      pure (some (.field number, rest))
  | _ => pure none

/-- Reads what a line is read into, if that is told. -/
def readLineGoal (go : TermReader) : Reader (Option RecordTerm) := fun tokens => do
  match ← readGoal? go tokens with
  | some (goal, rest) => pure (some goal, rest)
  | none => pure (none, tokens)

/-- Reads an operand without the operators around it. -/
def readOperand (go : TermReader) : Reader RecordTerm := fun tokens => do
  match ← readGoal? go tokens with
  | some found => pure found
  | none =>
      match tokens with
      | ⟨.number value, _, _⟩ :: rest => pure (.number value, rest)
      | ⟨.text text, _, _⟩ :: rest => pure (.text text, rest)
      | ⟨.expression written, line, _⟩ :: rest =>
          match readExpression written with
          | .ok expression => pure (.expression expression, rest)
          | .error words => throw ⟨line, words, rest.length, true⟩
      | ⟨.sign "(", _, _⟩ :: rest => do
          let (items, rest) ← readTerms (go false .whole) rest.length rest
          let rest ← expect ")" rest
          match items with
          | [item] => pure (item, rest)
          | items => pure (.list items, rest)
      | ⟨.called name, line, _⟩ :: rest =>
          match functions.lookup (String.ofList name) with
          | some found => readFunction go line (String.ofList name) found rest
          | none => do
              let (arguments, rest) ← readArguments go (rest.drop 1)
              pure (.call name arguments, rest)
      | ⟨.name name, line, _⟩ :: rest =>
          match functions.lookup (String.ofList name) with
          | some found => readFunction go line (String.ofList name) found rest
          | none => refuse tokens
      | ⟨.word "getline", _, _⟩ :: rest => do
          let (goal, rest) ← readLineGoal go rest
          if startsWith "<" rest then
            let (file, rest) ← go false .operand (rest.drop 1)
            pure (.readFile goal file, rest)
          else pure (.readLine goal, rest)
      | _ => refuse tokens

/-- Whether a list in brackets may stand before some tokens: it is looked for in a table, or all that is printed. -/
def endsList (isPrinted : Bool) (tokens : List RecordToken) : Bool :=
  startsWithWord "in" tokens || (isPrinted && (tokens.isEmpty
    || [";", "\x7d", ">", ">>", "|"].any (startsWith · tokens)
    || tokens.head?.any fun token => token.kind == .lineEnd))

/-- Reads what follows a command whose output is read. `fuel` bounds how often. -/
def readCommands (go : TermReader) : (fuel : Nat) → RecordTerm → Reader RecordTerm
  | 0, term, tokens => .ok (term, tokens)
  | fuel + 1, term, tokens => do
      match tokens with
      | ⟨.sign "|", _, _⟩ :: ⟨.word "getline", _, _⟩ :: rest => do
          let (goal, rest) ← readLineGoal go rest
          readCommands go fuel (.readCommand goal term) rest
      | tokens => pure (term, tokens)

/-- Reads an operand with what steps it. -/
def readChanged (go : TermReader) (isPrinted : Bool) : Reader RecordTerm := fun tokens => do
  match tokens with
  | ⟨.sign "++", _, _⟩ :: rest => do
      let (goal, rest) ← readOperand go rest
      pure (.step goal true true, rest)
  | ⟨.sign "--", _, _⟩ :: rest => do
      let (goal, rest) ← readOperand go rest
      pure (.step goal false true, rest)
  | tokens => do
      let (term, rest) ← readOperand go tokens
      let (term, rest) := match rest with
        | ⟨.sign sign, _, _⟩ :: behind =>
            if !isGoal term then (term, rest)
            else if sign = "++" then (.step term true false, behind)
            else if sign = "--" then (.step term false false, behind)
            else (term, rest)
        | rest => (term, rest)
      match term with
      | .list _ => if endsList isPrinted rest then pure (term, rest) else refuse rest
      | term => readCommands go rest.length term rest

/-- Reads an assignment behind its goal, which begins at some tokens, if it is one. -/
def readAssignment (go : TermReader) (isPrinted : Bool) (begun : List RecordToken) (term : RecordTerm) :
    Reader RecordTerm := fun tokens => do
  match tokens with
  | ⟨.sign sign, _, _⟩ :: behind =>
      match if isGoal term && !startsWith "(" begun then assignment? sign else none with
      | some operation => do
          let (value, rest) ← go isPrinted .whole (skipLines behind)
          pure (.assign term operation value, rest)
      | none => pure (term, tokens)
  | tokens => pure (term, tokens)

/-- Reads terms with operators between them, from the first one on; each joins all that stands before it. `fuel` bounds
their number. -/
def readChain (operand : Reader RecordTerm) (operator? : RecordToken → Option (RecordTerm → RecordTerm → RecordTerm))
    (passesLines : Bool) : (fuel : Nat) → RecordTerm → Reader RecordTerm
  | 0, first, tokens => .ok (first, tokens)
  | fuel + 1, first, tokens =>
      match tokens with
      | token :: rest =>
          match operator? token with
          | some operator => do
              let (second, rest) ← operand (if passesLines then skipLines rest else rest)
              readChain operand operator? passesLines fuel (operator first second) rest
          | none => .ok (first, tokens)
      | [] => .ok (first, [])

/-- Whether a token can begin an operand that is joined to what stands before it. -/
def beginsJoined (token : RecordToken) : Bool :=
  match token.kind with
  | .number _ => true
  | .text _ => true
  | .expression _ => true
  | .name _ => true
  | .called _ => true
  | .sign sign => ["$", "(", "++", "--", "!"].contains sign
  | _ => false

/-- Reads terms that are joined, from the first one on. `fuel` bounds their number. -/
def readJoined (operand : Reader RecordTerm) : (fuel : Nat) → RecordTerm → Reader RecordTerm
  | 0, first, tokens => .ok (first, tokens)
  | fuel + 1, first, tokens => do
      if tokens.head?.any beginsJoined then
        let (second, rest) ← operand tokens
        readJoined operand fuel (.join first second) rest
      else pure (first, tokens)

/-- Reads what follows a term that is looked for in tables; what comes behind that is read by another reader. `fuel`
bounds their number. -/
def readTables (further : RecordTerm → Reader RecordTerm) : (fuel : Nat) → RecordTerm → Reader RecordTerm
  | 0, term, tokens => .ok (term, tokens)
  | fuel + 1, term, tokens =>
      let index := match term with
        | .list items => items
        | term => [term]
      match tokens with
      | ⟨.word "in", _, _⟩ :: ⟨.name table, _, _⟩ :: rest => do
          let (compared, rest) ← further (.isIn index table) rest
          readTables further fuel compared rest
      | ⟨.word "in", _, _⟩ :: rest => refuse rest
      | tokens => .ok (term, tokens)

/-- Reads expressions with which a term is compared, behind their signs. `fuel` bounds their number. -/
def readMatches (operand : Reader RecordTerm) : (fuel : Nat) → RecordTerm → Reader RecordTerm
  | 0, first, tokens => .ok (first, tokens)
  | fuel + 1, first, tokens => do
      let negated? := if startsWith "~" tokens then some false else if startsWith "!~" tokens then some true else none
      match negated? with
      | some negated => do
          let (second, rest) ← operand (tokens.drop 1)
          readMatches operand fuel (.match negated first (← asExpression second rest)) rest
      | none => pure (first, tokens)

/-- The comparison that a sign stands for. -/
def comparison? (sign : String) : Option RecordComparison :=
  [("<", RecordComparison.less), ("<=", .lessOrEqual), ("==", .equal), ("!=", .notEqual), (">", .greater),
    (">=", .greaterOrEqual)].lookup sign

/-- The operator of a level that a token stands for. -/
def operator? (level : Level) (token : RecordToken) : Option (RecordTerm → RecordTerm → RecordTerm) :=
  match level, token.kind with
  | .either, .sign "||" => some .either
  | .both, .sign "&&" => some .both
  | .add, .sign "+" => some (.combine .add)
  | .add, .sign "-" => some (.combine .subtract)
  | .multiply, .sign "*" => some (.combine .multiply)
  | .multiply, .sign "/" => some (.combine .divide)
  | .multiply, .sign "%" => some (.combine .remainder)
  | _, _ => none

/-- Reads what a term is compared with, and what that is compared with. `fuel` bounds their number. -/
def readComparisons (operand : Reader RecordTerm) (isPrinted : Bool) : (fuel : Nat) → RecordTerm → Reader RecordTerm
  | 0, first, tokens => .ok (first, tokens)
  | fuel + 1, first, tokens => do
      match tokens with
      | ⟨.sign sign, _, _⟩ :: behind =>
          match if isPrinted && sign = ">" then none else comparison? sign with
          | some comparison => do
              let (second, rest) ← operand behind
              readComparisons operand isPrinted fuel (.compare comparison first second) rest
          | none => pure (first, tokens)
      | tokens => pure (first, tokens)

/-- Reads a term of a level. -/
def readLevel (go : TermReader) (isPrinted : Bool) (level : Level) : Reader RecordTerm := fun tokens => do
  let chain (next : Level) (passesLines : Bool) : Except RecordFault (RecordTerm × List RecordToken) := do
    let (first, rest) ← go isPrinted next tokens
    readChain (go isPrinted next) (operator? level) passesLines rest.length first rest
  match level with
  | .whole => do
      let (condition, rest) ← go isPrinted .either tokens
      if startsWith "?" rest then
        let (first, rest) ← go isPrinted .whole (skipLines (rest.drop 1))
        let rest ← expect ":" (skipLines rest)
        let (second, rest) ← go isPrinted .whole (skipLines rest)
        pure (.choice condition first second, rest)
      else pure (condition, rest)
  | .either => chain .both true
  | .both => chain .isIn true
  | .isIn => do
      let (first, rest) ← go isPrinted .match tokens
      let further (term : RecordTerm) : Reader RecordTerm := fun tokens => do
        let (compared, rest) ← readComparisons (go isPrinted .join) isPrinted tokens.length term tokens
        readMatches (go isPrinted .compare) rest.length compared rest
      readTables further rest.length first rest
  | .match => do
      let (first, rest) ← go isPrinted .compare tokens
      readMatches (go isPrinted .compare) rest.length first rest
  | .compare => do
      let (first, rest) ← go isPrinted .join tokens
      readComparisons (go isPrinted .join) isPrinted rest.length first rest
  | .join => do
      let (first, rest) ← go isPrinted .add tokens
      let (first, rest) ← readAssignment go isPrinted tokens first rest
      readJoined (go isPrinted .add) rest.length first rest
  | .add => chain .multiply false
  | .multiply => chain .sign false
  | .sign =>
      match tokens with
      | ⟨.sign "-", _, _⟩ :: rest => (go isPrinted .sign rest).map fun (term, rest) => (.negative term, rest)
      | ⟨.sign "+", _, _⟩ :: rest => (go isPrinted .sign rest).map fun (term, rest) => (.positive term, rest)
      | ⟨.sign "!", _, _⟩ :: rest => (go isPrinted .sign rest).map fun (term, rest) => (.not term, rest)
      | tokens => go isPrinted .power tokens
  | .power => do
      let (first, rest) ← readChanged go isPrinted tokens
      if startsWith "^" rest then
        let (second, rest) ← go isPrinted .sign (rest.drop 1)
        pure (.combine .power first second, rest)
      else pure (first, rest)
  | .operand => readOperand go tokens

/-- Reads terms of all levels. `fuel` bounds how deep they are. -/
def readTerm : (fuel : Nat) → TermReader
  | 0 => fun _ _ tokens => refuse tokens
  | fuel + 1 => readLevel (readTerm fuel)

/-- Where a statement stands: in a function, in a loop, or in a rule for records. -/
structure Setting where
  inFunction : Bool
  inLoop : Bool
  inRule : Bool

/-- A reader of statements. -/
abbrev StatementReader := Setting → Reader RecordStatement

/-- Whether a statement ends before some tokens. -/
def isAtEnd (tokens : List RecordToken) : Bool :=
  tokens.isEmpty || startsWith ";" tokens || startsWith "\x7d" tokens
    || tokens.head?.any fun token => token.kind == .lineEnd

/-- Reads the end of a statement and the lines behind it. -/
def readEnd (tokens : List RecordToken) : Except RecordFault (List RecordToken) :=
  if startsWith ";" tokens then .ok (skipLines (tokens.drop 1))
  else if startsWith "\x7d" tokens then .ok tokens
  else
    match tokens with
    | token :: rest => if token.kind == .lineEnd then .ok (skipLines rest) else refuse tokens
    | [] => .ok []

/-- Reads where something is printed, if that is told. -/
def readOutlet (go : TermReader) : Reader (Option RecordOutlet) := fun tokens => do
  let outlet (make : RecordTerm → RecordOutlet) : Except RecordFault (Option RecordOutlet × List RecordToken) := do
    let (term, rest) ← go true .whole (tokens.drop 1)
    pure (some (make term), rest)
  if startsWith ">" tokens then outlet .anew
  else if startsWith ">>" tokens then outlet .behind
  else if startsWith "|" tokens then outlet .command
  else pure (none, tokens)

/-- Reads what is printed. -/
def readPrinted (go : TermReader) : Reader (List RecordTerm × Option RecordOutlet) := fun tokens => do
  let isEmpty := isAtEnd tokens || [">", ">>", "|"].any fun sign => startsWith sign tokens
  let (items, rest) ← if isEmpty then pure ([], tokens) else readTerms (go true .whole) tokens.length tokens
  let (outlet, rest) ← readOutlet go rest
  let items := match items with
    | [.list items] => items
    | items => items
  pure ((items, outlet), rest)

/-- Reads a statement without its end. -/
def readSimple (go : TermReader) : Reader RecordStatement := fun tokens => do
  match tokens with
  | ⟨.word "print", _, _⟩ :: rest => do
      let ((items, outlet), rest) ← readPrinted go rest
      pure (.print items outlet, rest)
  | ⟨.word "printf", line, _⟩ :: rest => do
      let ((items, outlet), behind) ← readPrinted go rest
      if items.isEmpty then
        throw ⟨line, "no arguments in call to printf".toList, behind.length, true⟩
      pure (.format items outlet, behind)
  | ⟨.word "delete", _, _⟩ :: rest => do
      match rest with
      | ⟨.name table, _, _⟩ :: rest =>
          if startsWith "[" rest then
            let (index, rest) ← readTerms (go false .whole) rest.length (rest.drop 1)
            pure (.delete table (some index), ← expect "]" rest)
          else pure (.delete table none, rest)
      | rest => refuse rest
  | tokens => do
      let (term, rest) ← go false .whole tokens
      pure (.term term, rest)

/-- Reads statements up to the brace that ends a block. `fuel` bounds their number. -/
def readBlock (statement : Reader RecordStatement) : (fuel : Nat) → Reader (List RecordStatement)
  | 0, tokens => refuse tokens
  | fuel + 1, tokens => do
      let tokens := skipLines tokens
      if startsWith "\x7d" tokens then pure ([], tokens.drop 1)
      else
        let (first, rest) ← statement tokens
        let (others, rest) ← readBlock statement fuel rest
        pure (first :: others, rest)

/-- Reads a term in brackets, and passes the lines behind it. -/
def readCondition (go : TermReader) : Reader RecordTerm := fun tokens => do
  let rest ← expect "(" tokens
  let (condition, rest) ← go false .whole rest
  pure (condition, skipLines (← expect ")" rest))

/-- Reads the head and the body of a loop that is told by its first brackets. -/
def readFor (go : TermReader) (body : Reader RecordStatement) : Reader RecordStatement := fun tokens => do
  let rest ← expect "(" tokens
  match rest with
  | ⟨.name goal, _, _⟩ :: ⟨.word "in", _, _⟩ :: ⟨.name table, _, _⟩ :: ⟨.sign ")", _, _⟩ :: rest => do
      let (inner, rest) ← body (skipLines rest)
      pure (.forEach (.variable goal) table inner, rest)
  | rest => do
      let optional (isDone : List RecordToken → Bool) (tokens : List RecordToken) :
          Except RecordFault (Option RecordStatement × List RecordToken) := do
        if isDone tokens then pure (none, tokens)
        else
          let (statement, rest) ← readSimple go tokens
          pure (some statement, rest)
      let (first, rest) ← optional (startsWith ";") rest
      let rest := skipLines (← expect ";" rest)
      let (condition, rest) ←
        if startsWith ";" rest then pure (none, rest)
        else
          let (condition, rest) ← go false .whole rest
          pure (some condition, rest)
      let rest := skipLines (← expect ";" rest)
      let (step, rest) ← optional (startsWith ")") rest
      let rest ← expect ")" rest
      let (inner, rest) ← body (skipLines rest)
      pure (.for first condition step inner, rest)

/-- Reads a statement. -/
def readStatementWith (term : TermReader) (go : StatementReader) (setting : Setting) : Reader RecordStatement :=
  fun tokens => do
  let inner : Reader RecordStatement := go { setting with inLoop := true }
  let valued (make : Option RecordTerm → RecordStatement) (rest : List RecordToken) :
      Except RecordFault (RecordStatement × List RecordToken) := do
    if isAtEnd rest then pure (make none, ← readEnd rest)
    else
      let (value, rest) ← term false .whole rest
      pure (make (some value), ← readEnd rest)
  let plain (line : Nat) (isAllowed : Bool) (words : String) (statement : RecordStatement) (rest : List RecordToken) :
      Except RecordFault (RecordStatement × List RecordToken) := do
    if isAllowed then pure (statement, ← readEnd rest) else throw ⟨line, words.toList, rest.length, true⟩
  match tokens with
  | ⟨.sign ";", _, _⟩ :: rest => pure (.block [], skipLines rest)
  | ⟨.sign "\x7b", _, _⟩ :: rest => do
      let (statements, rest) ← readBlock (go setting) (rest.length + 1) rest
      pure (.block statements, skipLines rest)
  | ⟨.word "if", _, _⟩ :: rest => do
      let (condition, rest) ← readCondition term rest
      let (first, rest) ← go setting rest
      if startsWithWord "else" rest then
        let (second, rest) ← go setting (skipLines (rest.drop 1))
        pure (.choose condition first (some second), rest)
      else pure (.choose condition first none, rest)
  | ⟨.word "while", _, _⟩ :: rest => do
      let (condition, rest) ← readCondition term rest
      let (body, rest) ← inner rest
      pure (.while condition body, rest)
  | ⟨.word "do", _, _⟩ :: rest => do
      let (body, rest) ← inner (skipLines rest)
      if !startsWithWord "while" rest then refuse rest
      let (condition, rest) ← readCondition term (rest.drop 1)
      let rest := if startsWith ";" rest then skipLines (rest.drop 1) else rest
      pure (.doWhile body condition, rest)
  | ⟨.word "for", _, _⟩ :: rest => readFor term inner rest
  | ⟨.word "next", line, _⟩ :: rest => plain line setting.inRule "improper use of next" .next rest
  | ⟨.word "nextfile", line, _⟩ :: rest =>
      plain line setting.inRule "improper use of nextfile" .nextFile rest
  | ⟨.word "break", line, _⟩ :: rest => plain line setting.inLoop "break statement outside of loop" .break rest
  | ⟨.word "continue", line, _⟩ :: rest =>
      plain line setting.inLoop "continue statement outside of loop" .continue rest
  | ⟨.word "exit", _, _⟩ :: rest => valued .exit rest
  | ⟨.word "return", line, _⟩ :: rest =>
      if setting.inFunction then valued .return rest
      else throw ⟨line, "return outside function body".toList, rest.length, true⟩
  | tokens => do
      let (statement, rest) ← readSimple term tokens
      pure (statement, ← readEnd rest)

/-- Reads statements. `fuel` bounds how deep they are. -/
def readStatement (term : TermReader) : (fuel : Nat) → StatementReader
  | 0 => fun _ tokens => refuse tokens
  | fuel + 1 => readStatementWith term (readStatement term fuel)

/-- Reads names with commas between them up to a closing bracket. `fuel` bounds their number. -/
def readParameters : (fuel : Nat) → Reader (List Text)
  | 0, tokens => refuse tokens
  | fuel + 1, tokens =>
      match tokens with
      | ⟨.name name, _, _⟩ :: ⟨.sign ",", _, _⟩ :: rest =>
          (readParameters fuel (skipLines rest)).map fun (names, rest) => (name :: names, rest)
      | ⟨.name name, _, _⟩ :: ⟨.sign ")", _, _⟩ :: rest => .ok ([name], rest)
      | ⟨.name _, _, _⟩ :: rest => refuse rest
      | tokens => refuse tokens

/-- Reads the block of a rule or of a function. One semicolon may stand behind it. -/
def readAction (statement : StatementReader) (setting : Setting) : Reader RecordStatement := fun tokens => do
  if !startsWith "\x7b" tokens then refuse tokens
  let (statements, rest) ← readBlock (statement setting) (tokens.length + 1) (tokens.drop 1)
  pure (.block statements, if startsWith ";" rest then rest.drop 1 else rest)

/-- Reads the rules and functions of a program, of which so many have been read. `fuel` bounds their number. -/
def readRules (term : TermReader) (statement : StatementReader) : (fuel : Nat) → (place : Nat) → List RecordToken →
    Except RecordFault RecordScript
  | 0, _, tokens => refuse tokens
  | fuel + 1, place, tokens => do
      let ruleSetting : Setting := ⟨false, false, true⟩
      let follow (rule : RecordRule) (rest : List RecordToken) : Except RecordFault RecordScript := do
        let script ← readRules term statement fuel (place + 1) rest
        pure { script with rules := rule :: script.rules }
      let acting (pattern : RecordPattern) (setting : Setting) (rest : List RecordToken) :
          Except RecordFault RecordScript := do
        let (action, rest) ← readAction statement setting rest
        follow ⟨place, pattern, some action⟩ rest
      match skipLines tokens with
      | [] => pure ⟨[], []⟩
      | ⟨.word "BEGIN", _, _⟩ :: rest => acting .before ⟨false, false, false⟩ rest
      | ⟨.word "END", _, _⟩ :: rest => acting .behind ⟨false, false, false⟩ rest
      | ⟨.word "function", _, _⟩ :: rest =>
          let define (name : Text) (rest : List RecordToken) : Except RecordFault RecordScript := do
            let rest ← expect "(" rest
            let (parameters, rest) ←
              if startsWith ")" rest then pure ([], rest.drop 1) else readParameters (rest.length + 1) rest
            let (body, rest) ← readAction statement ⟨true, false, false⟩ (skipLines rest)
            let script ← readRules term statement fuel place rest
            pure { script with definitions := ⟨name, parameters, body⟩ :: script.definitions }
          match rest with
          | ⟨.called name, _, _⟩ :: rest => define name rest
          | ⟨.name name, _, _⟩ :: rest => define name rest
          | rest => refuse rest
      | tokens =>
          if startsWith "\x7b" tokens then acting .always ruleSetting tokens
          else do
            let (first, rest) ← term false .whole tokens
            let (pattern, rest) ←
              if startsWith "," rest then
                let (last, rest) ← term false .whole (skipLines (rest.drop 1))
                pure (RecordPattern.between first last, rest)
              else pure (.having first, rest)
            if startsWith "\x7b" rest then acting pattern ruleSetting rest
            else if startsWith ";" rest then follow ⟨place, pattern, none⟩ (rest.drop 1)
            else
              match rest with
              | token :: behind =>
                  if token.kind == .lineEnd then follow ⟨place, pattern, none⟩ behind else refuse rest
              | [] => follow ⟨place, pattern, none⟩ []

end RecordReading

end SecureShell.Rehearsal.Shell
