/-
Module: SecureShell.Rehearsal.Shell.RecordTokens
Purpose: The smallest parts of a program that deals with records: numbers, texts, expressions, names, words of the
  language and signs, each with its line. A slash begins an expression where no operand stands before it.
Main exports: RecordToken, RecordFault, RecordToken.readAll
-/
import SecureShell.Rehearsal.Shell.Arithmetic
import SecureShell.Text.Decimal
import SecureShell.Text.Floating

namespace SecureShell.Rehearsal.Shell

/-- What a token is. A name is called if a bracket opens right behind it. -/
inductive RecordTokenKind where
  | number (value : Float)
  | text (text : Text)
  | expression (written : Text)
  | name (name : Text)
  | called (name : Text)
  | word (word : String)
  | sign (sign : String)
  | lineEnd
deriving BEq, Repr

/-- A token with its line and as it is written. -/
structure RecordToken where
  kind : RecordTokenKind
  line : Nat
  written : Text
deriving BEq, Repr

/-- What is wrong with a program, in words: in which line, and how many tokens follow there. `names` tells whether the
line is called one. -/
structure RecordFault where
  line : Nat
  words : Text
  left : Nat
  names : Bool
deriving DecidableEq, Repr

namespace RecordToken

/-- What is wrong in a line. -/
def faultIn (line : Nat) (words : Text) : RecordFault :=
  ⟨line, words, 0, true⟩

/-- An expression in which slashes are not protected. -/
def withoutGuards : Text → Text
  | '\\' :: '/' :: rest => '/' :: withoutGuards rest
  | c :: rest => c :: withoutGuards rest
  | [] => []

/-- How a token is shown where it is out of place. -/
def shown (token : RecordToken) : Text :=
  match token.kind with
  | .lineEnd => "end of line".toList
  | .text text => text
  | .called name => name
  | .expression written => '/' :: withoutGuards written ++ ['/']
  | .sign ">>" => ['>']
  | _ => token.written

/-- The words of the language. -/
def languageWords : List String :=
  ["BEGIN", "END", "function", "if", "else", "while", "for", "do", "break", "continue", "next", "nextfile", "exit",
    "return", "delete", "in", "getline", "print", "printf"]

/-- The names of the functions of the language. -/
def functionNames : List String :=
  ["length", "substr", "index", "split", "sub", "gsub", "match", "sprintf", "sin", "cos", "atan2", "exp", "log",
    "sqrt", "int", "rand", "srand", "tolower", "toupper", "system", "close", "fflush", "systime"]

/-- The signs, longer ones before those with which they begin. -/
def signs : List String :=
  ["&&", "||", "==", "!=", "<=", ">=", ">>", "++", "--", "+=", "-=", "*=", "/=", "%=", "^=", "!~", "\x7b", "\x7d",
    "(", ")", "[", "]", ";", ",", "?", ":", "!", "~", "<", ">", "|", "+", "-", "*", "/", "%", "^", "=", "$"]

/-- Whether an operand ends with a token, so that a slash behind it divides. -/
def endsOperand : RecordTokenKind → Bool
  | .number _ => true
  | .text _ => true
  | .expression _ => true
  | .name name => !functionNames.contains (String.ofList name)
  | .sign sign => [")", "]", "$", "++", "--"].contains sign
  | _ => false

/-- The character that digits of a base behind a backslash name, and the text behind them. -/
def codeChar? (base most : Nat) (text : Text) : Option (Char × Text) :=
  let digits := (text.take most).takeWhile fun c => (Arithmetic.digit? base c).isSome
  if digits = [] then none
  else
    let value := digits.foldl (fun value c => value * base + (Arithmetic.digit? base c).getD 0) 0
    some (Char.ofNat (value % 256), text.drop digits.length)

/-- The character that a letter or a number behind a backslash names, and the text behind it. -/
def namedChar? : Text → Option (Char × Text)
  | 'n' :: rest => some ('\n', rest)
  | 't' :: rest => some ('\t', rest)
  | 'r' :: rest => some ('\r', rest)
  | 'a' :: rest => some ('\x07', rest)
  | 'b' :: rest => some ('\x08', rest)
  | 'f' :: rest => some ('\x0c', rest)
  | 'v' :: rest => some ('\x0b', rest)
  | 'x' :: rest => codeChar? 16 2 rest
  | text => codeChar? 8 3 text

/-- A text in which characters stand that are named behind backslashes, or protected. Other backslashes stay. `fuel`
bounds the steps. -/
def unescaped : (fuel : Nat) → Text → Text
  | 0, text => text
  | _, [] => []
  | _, ['\\'] => ['\\']
  | fuel + 1, '\\' :: c :: rest =>
      match namedChar? (c :: rest) with
      | some (named, rest) => named :: unescaped fuel rest
      | none =>
          if c = '"' ∨ c = '\\' then c :: unescaped fuel rest else '\\' :: c :: unescaped fuel rest
  | fuel + 1, c :: rest => c :: unescaped fuel rest

/-- The text up to a mark in the same line that is not protected, and the text behind the mark. Inside of brackets of
an expression a mark has no meaning. A protected line feed is left out. `fuel` bounds the steps. -/
def cutAt (mark : Char) : (fuel : Nat) → (inBrackets : Bool) → Text → Option (Text × Text)
  | 0, _, _ => none
  | _, _, [] => none
  | fuel + 1, inBrackets, '\\' :: c :: rest =>
      (cutAt mark fuel inBrackets rest).map fun cut =>
        (if c = '\n' then cut.1 else '\\' :: c :: cut.1, cut.2)
  | fuel + 1, inBrackets, c :: rest =>
      if c = mark ∧ inBrackets = false then some ([], rest)
      else if c = '\n' then none
      else if mark = '/' ∧ c = '[' ∧ inBrackets = false then
        let head := if rest.head? = some '^' then ['^'] else []
        let behind := rest.drop head.length
        let head := if behind.head? = some ']' then head ++ [']'] else head
        match cutAt mark fuel true (rest.drop head.length) with
        | some cut => some (c :: head ++ cut.1, cut.2)
        | none => (cutAt mark fuel false rest).map fun cut => (c :: cut.1, cut.2)
      else (cutAt mark fuel (inBrackets && c ≠ ']') rest).map fun cut => (c :: cut.1, cut.2)

/-- The beginning of the rest of a line, as it is shown where no end of it is found. -/
def shownBeginning (text : Text) : Text :=
  (text.takeWhile (· ≠ '\n')).take 10 ++ " ...".toList

/-- Whether a character belongs to a name. -/
def isNameChar (c : Char) : Bool :=
  c.isAlphanum || c = '_'

/-- The number at the beginning of a text, which is written in base ten, and the text behind it. -/
def cutNumber (text : Text) : Float × Text :=
  let hasMark := text.head? = some '0' ∧ (text[1]?).any (fun c => c = 'x' || c = 'X') = true
  if hasMark then (0, text.drop 1)
  else
    match Floating.read? text with
    | some reading => (reading.value, reading.rest)
    | none => (0, text.drop 1)

/-- The token at the beginning of a text that begins with neither blank nor comment, and the text behind it.
`isBehindOperand` tells whether an operand stands before it. -/
def cut (line : Nat) (isBehindOperand : Bool) (text : Text) : Except RecordFault (RecordTokenKind × Text) :=
  match text with
  | [] => .ok (.lineEnd, [])
  | c :: rest =>
      if c = '\n' then .ok (.lineEnd, rest)
      else if c = '"' then
        match cutAt '"' (rest.length + 1) false rest with
        | some (inside, rest) => .ok (.text (unescaped (inside.length + 1) inside), rest)
        | none => .error (faultIn line ("runaway string constant ".toList ++ shownBeginning text))
      else if c = '/' ∧ isBehindOperand = false then
        match cutAt '/' (rest.length + 1) false rest with
        | some (inside, rest) => .ok (.expression inside, rest)
        | none => .error (faultIn line ("runaway regular expression ".toList ++ shownBeginning text))
      else if c.isDigit || (c = '.' && rest.head?.any Char.isDigit) then
        let (value, rest) := cutNumber text
        .ok (.number value, rest)
      else if isNameChar c then
        let name := text.takeWhile isNameChar
        let rest := text.drop name.length
        match languageWords.find? (·.toList = name) with
        | some word => .ok (.word word, rest)
        | none => .ok (if rest.head? = some '(' then .called name else .name name, rest)
      else
        match signs.find? (·.toList.isPrefixOf text) with
        | some sign => .ok (.sign sign, text.drop sign.length)
        | none => .error ⟨line, "unexpected character '".toList ++ [c, '\''], 0, false⟩

/-- A text without the blanks, the comment and the lines that go on at its beginning, and how many lines these are.
`fuel` bounds the steps. -/
def skipBlanks : (fuel : Nat) → (lines : Nat) → Text → Nat × Text
  | 0, lines, text => (lines, text)
  | fuel + 1, lines, '\\' :: '\n' :: rest => skipBlanks fuel (lines + 1) rest
  | fuel + 1, lines, '\\' :: '\r' :: '\n' :: rest => skipBlanks fuel (lines + 1) rest
  | fuel + 1, lines, '#' :: rest => skipBlanks fuel lines (rest.dropWhile (· ≠ '\n'))
  | fuel + 1, lines, c :: rest =>
      if c = ' ' ∨ c = '\t' ∨ c = '\r' then skipBlanks fuel lines rest else (lines, c :: rest)
  | _, lines, [] => (lines, [])

/-- All tokens of a text, of which the last one ends a line. `fuel` bounds their number. -/
def readFrom : (fuel : Nat) → (line : Nat) → (isBehindOperand : Bool) → Text → Except RecordFault (List RecordToken)
  | 0, _, _, _ => .ok []
  | fuel + 1, line, isBehindOperand, text => do
      let (lines, text) := skipBlanks (text.length + 1) 0 text
      let line := line + lines
      let (kind, rest) ← cut line isBehindOperand text
      let token : RecordToken := ⟨kind, line, text.take (text.length - rest.length)⟩
      if text = [] then pure [token]
      else
        let next := line + (token.written.filter (· = '\n')).length
        pure (token :: (← readFrom fuel next (endsOperand kind) rest))

/-- All tokens of a text. -/
def readAll (text : Text) : Except RecordFault (List RecordToken) :=
  readFrom (text.length + 2) 1 false text

end RecordToken

end SecureShell.Rehearsal.Shell
