/-
Module: SecureShell.Rehearsal.Shell.EditScript
Purpose: Scripts of the program that edits lines. A command has addresses that name the lines for which it is
  meant, and an action; commands may stand in blocks, and be marked so that others go on there.
Main exports: EditExpression, LineAddress, EditAction, EditCommand, EditFault, EditScript.read
-/
import SecureShell.Rehearsal.Shell.Arithmetic
import SecureShell.Rehearsal.Shell.ExpressionSigns
import SecureShell.Text.Decimal

namespace SecureShell.Rehearsal.Shell

/-- An expression, whether case does not matter, and whether the text counts as several lines. -/
structure EditExpression where
  expression : Expression
  folds : Bool
  inLines : Bool
deriving DecidableEq, Repr

/-- What names a line: its number, that it comes every so many lines behind one, that it is the last one, or a part
that it has; without an expression that is the part which has been looked for last. The end of a range is also named
by its distance from the beginning, or by a number that divides its own. -/
inductive LineAddress where
  | number (number : Nat)
  | every (first step : Nat)
  | final
  | having (expression : Option EditExpression)
  | distance (lines : Nat)
  | multiple (number : Nat)
deriving DecidableEq, Repr

/-- A change of case: of the next character, or of all that follow up to the next change. -/
inductive CaseChange where
  | nextUpper
  | nextLower
  | upper
  | lower
  | none
deriving DecidableEq, Repr

/-- A part of the text that replaces another one: a character, the text of a group, or a change of case. The group
of the number zero is all that is replaced. -/
inductive Replacement where
  | char (c : Char)
  | group (number : Nat)
  | case (change : CaseChange)
deriving DecidableEq, Repr

/-- How a part is replaced: by what, from which occurrence on, whether in all that follow, whether the line is
printed then, and the file into which it is written. -/
structure Substitution where
  expression : Option EditExpression
  parts : List Replacement
  first : Nat
  all : Bool
  prints : Bool
  file : Option Text
deriving DecidableEq, Repr

/-- When a command goes on at a mark. -/
inductive JumpMoment where
  | always
  | ifReplaced
  | unlessReplaced
deriving DecidableEq, Repr

/-- What is exchanged between the line and what is held. -/
inductive HoldAction where
  | keep
  | keepMore
  | recall
  | recallMore
  | exchange
deriving DecidableEq, Repr

/-- Where a text is put that is not part of the input: before the line, behind it, or in its place. -/
inductive TextPlace where
  | before
  | behind
  | instead
deriving DecidableEq, Repr

/-- What a command does. -/
inductive EditAction where
  | opening
  | closing
  | mark (label : Text)
  | jump (moment : JumpMoment) (label : Text)
  | replace (substitution : Substitution)
  | exchange (pairs : List (Char × Char))
  | delete
  | deleteFirst
  | print
  | printFirst
  | list (width : Option Nat)
  | number
  | nameFile
  | next
  | appendNext
  | hold (action : HoldAction)
  | clear
  | text (place : TextPlace) (text : Text)
  | readFile (name : Text)
  | readLine (name : Text)
  | write (name : Text) (onlyFirst : Bool)
  | quit (prints : Bool) (status : Nat)
  | nothing
deriving DecidableEq, Repr

/-- A command: its number among all, the lines for which it is meant – all, one, or those from one to another, or
all others –, and what it does. -/
structure EditCommand where
  place : Nat
  first : Option LineAddress
  last : Option LineAddress
  negated : Bool
  action : EditAction
deriving DecidableEq, Repr

/-- What is wrong with a script: something at a place, which is told by how much of the script stands behind it;
a block that is not closed, which is told in the same way; or a mark that is missing. -/
inductive EditFault where
  | before (rest : Text) (message : Text)
  | unclosed (rest : Text)
  | unmarked (label : Text)
deriving DecidableEq, Repr

namespace EditScript

/-- What reads something at the beginning of a text, and leaves the text behind it. -/
abbrev Reader (α : Type) := Text → Except EditFault (α × Text)

/-- Refuses a script because of what stands before a rest of it. -/
def refuse {α : Type} (rest : Text) (message : String) : Except EditFault α :=
  .error (.before rest message.toList)

/-- A list in brackets behind its first bracket up to its end, and the text behind it. `mark` is the sign that belongs
to an inner bracket, in which a closing one has to follow it. -/
def cutBracket (mark : Option Char) : (isFirst : Bool) → Text → Option (Text × Text)
  | _, [] => none
  | isFirst, c :: rest =>
      match mark with
      | some sign =>
          if c = sign ∧ rest.head? = some ']' then
            (cutBracket none false rest).map fun cut => (c :: cut.1, cut.2)
          else (cutBracket mark false rest).map fun cut => (c :: cut.1, cut.2)
      | none =>
          if c = ']' ∧ isFirst = false then some ([']'], rest)
          else if c = '[' ∧ (rest.head?.any fun c => c = ':' || c = '.' || c = '=') = true then
            (cutBracket rest.head? false rest).map fun cut => (c :: cut.1, cut.2)
          else (cutBracket none (isFirst && c = '^') rest).map fun cut => (c :: cut.1, cut.2)

/-- A text up to a mark that is not protected, and the text behind the mark. A protected mark loses its backslash, a
protected line feed as well, and a protected `n` is a line feed in an expression, where marks in brackets do not
count. `fuel` bounds the steps. -/
def cutAtMark (isExpression : Bool) (mark : Char) : (fuel : Nat) → Text → Except Text (Text × Text)
  | 0, rest => .error rest
  | _, [] => .error []
  | fuel + 1, c :: rest =>
      let further (front : Text) (rest : Text) : Except Text (Text × Text) :=
        (cutAtMark isExpression mark fuel rest).map fun cut => (front ++ cut.1, cut.2)
      if c = mark then .ok ([], rest)
      else if c = '\n' then .error (c :: rest)
      else if c = '\\' then
        match rest with
        | [] => .error []
        | next :: rest =>
            if next = mark then
              further (if !isExpression && next = '&' then ['\\', next] else [next]) rest
            else if next = 'n' ∧ isExpression = true then further ['\n'] rest
            else if next = '\n' then further (if isExpression then [next] else ['\\', next]) rest
            else further ['\\', next] rest
      else if c = '[' ∧ isExpression = true then
        match cutBracket none true rest with
        | some (inside, rest) => further (c :: inside) rest
        | none => .error []
      else further [c] rest

/-- The value of digits of a base, at most so many of them, at the beginning of a text, and the text behind them. -/
def codeOf? (base most : Nat) (text : Text) : Option (Char × Text) :=
  let digits := (text.take most).takeWhile fun c => (Arithmetic.digit? base c).isSome
  if digits = [] then none
  else
    let value := digits.foldl (fun value c => value * base + (Arithmetic.digit? base c).getD 0) 0
    some (Char.ofNat (value % 256), text.drop digits.length)

/-- The character that a backslash with what follows it names by a letter or by a number, and the text behind that. -/
def namedChar? : Text → Option (Char × Text)
  | 'a' :: rest => some ('\x07', rest)
  | 'f' :: rest => some ('\x0c', rest)
  | 'r' :: rest => some ('\r', rest)
  | 't' :: rest => some ('\t', rest)
  | 'v' :: rest => some ('\x0b', rest)
  | 'c' :: c :: rest => some (Char.ofNat (Nat.xor c.toUpper.toNat 64), rest)
  | 'd' :: rest => codeOf? 10 3 rest
  | 'o' :: rest => codeOf? 8 3 rest
  | 'x' :: rest => codeOf? 16 2 rest
  | _ => none

/-- An expression in which characters stand that it names. `fuel` bounds the steps. -/
def withNamed : (fuel : Nat) → Text → Text
  | 0, text => text
  | fuel + 1, '\\' :: rest =>
      match namedChar? rest with
      | some (c, rest) => c :: withNamed fuel rest
      | none => '\\' :: rest.take 1 ++ withNamed fuel (rest.drop 1)
  | fuel + 1, c :: rest => c :: withNamed fuel rest
  | _, [] => []

/-- The change of case that a letter stands for. -/
def caseChange? (letter : Char) : Option CaseChange :=
  if letter = 'U' then some .upper
  else if letter = 'L' then some .lower
  else if letter = 'u' then some .nextUpper
  else if letter = 'l' then some .nextLower
  else if letter = 'E' then some .none
  else none

/-- The parts of a text that replaces another one. `fuel` bounds the steps. -/
def replacements : (fuel : Nat) → Text → List Replacement
  | 0, _ => []
  | _, [] => []
  | _, ['\\'] => [.char '\\']
  | fuel + 1, '\\' :: c :: rest =>
      match namedChar? (c :: rest), caseChange? c with
      | some (c, rest), _ => .char c :: replacements fuel rest
      | none, some change => .case change :: replacements fuel rest
      | none, none =>
          (if c.isDigit then .group (c.toNat - '0'.toNat) else .char (if c = 'n' then '\n' else c))
            :: replacements fuel rest
  | fuel + 1, '&' :: rest => .group 0 :: replacements fuel rest
  | fuel + 1, c :: rest => .char c :: replacements fuel rest

/-- A text in which backslashes protect what follows them, or name a character. `fuel` bounds the steps. -/
def unprotected : (fuel : Nat) → Text → Text
  | 0, _ => []
  | _, [] => []
  | fuel + 1, '\\' :: rest =>
      match namedChar? rest, rest with
      | some (c, rest), _ => c :: unprotected fuel rest
      | none, c :: rest => (if c = 'n' then '\n' else c) :: unprotected fuel rest
      | none, [] => []
  | fuel + 1, c :: rest => c :: unprotected fuel rest

/-- A text without the blanks in front. -/
def skipBlanks (text : Text) : Text :=
  text.dropWhile fun c => c = ' ' || c = '\t'

/-- The number at the beginning of a text, and the text behind it. -/
def cutNumber (text : Text) : Nat × Text :=
  let digits := text.takeWhile Char.isDigit
  (Nat.ofDigitChars 10 digits 0, text.drop digits.length)

/-- Reads what an expression means, unless it is empty. -/
def readExpression (style : ExpressionStyle) (folds inLines : Bool) (written rest : Text) :
    Except EditFault (Option EditExpression) :=
  if written = [] then
    if folds || inLines then refuse rest "cannot specify modifiers on empty regexp" else .ok none
  else
    match Expression.read style (withNamed (written.length + 1) written) with
    | .ok expression => .ok (some ⟨expression, folds, inLines⟩)
    | .error fault => refuse rest fault.message

/-- The letters behind an expression that names a line. -/
def cutAddressFlags : (fuel : Nat) → (folds inLines : Bool) → Text → Bool × Bool × Text
  | 0, folds, inLines, text => (folds, inLines, text)
  | fuel + 1, folds, inLines, text =>
      match skipBlanks text with
      | 'I' :: rest => cutAddressFlags fuel true inLines rest
      | 'M' :: rest => cutAddressFlags fuel folds true rest
      | rest => (folds, inLines, rest)

/-- The address at the beginning of a text, if there is one. -/
def cutAddress (style : ExpressionStyle) : Reader (Option LineAddress) := fun text => do
  let having (mark : Char) (rest : Text) : Except EditFault (Option LineAddress × Text) :=
    match cutAtMark true mark (rest.length + 1) rest with
    | .error rest => refuse rest "unterminated address regex"
    | .ok (written, rest) => do
        let (folds, inLines, rest) := cutAddressFlags (rest.length + 1) false false rest
        pure (some (.having (← readExpression style folds inLines written rest)), rest)
  match text with
  | '$' :: rest => pure (some .final, rest)
  | '/' :: rest => having '/' rest
  | '\\' :: mark :: rest => having mark rest
  | '+' :: rest =>
      let (number, rest) := cutNumber (skipBlanks rest)
      pure (some (.distance number), rest)
  | '~' :: rest =>
      let (number, rest) := cutNumber (skipBlanks rest)
      pure (some (.multiple number), rest)
  | text =>
      if (text.head?.any Char.isDigit) = false then pure (none, text)
      else
        let (number, rest) := cutNumber text
        match skipBlanks rest with
        | '~' :: rest =>
            let (step, rest) := cutNumber (skipBlanks rest)
            pure (some (if step = 0 then .number number else .every number step), rest)
        | rest => pure (some (.number number), rest)

/-- The addresses at the beginning of a text. The number zero can only begin a range up to a part. -/
def cutAddresses (style : ExpressionStyle) : Reader (Option LineAddress × Option LineAddress) := fun text => do
  let (first, rest) ← cutAddress style text
  match first with
  | none => pure ((none, none), rest)
  | some first => do
      let isRelative := match first with
        | .distance _ => true
        | .multiple _ => true
        | _ => false
      if isRelative then refuse rest "invalid usage of +N or ~N as first address"
      let (last, rest) ← match skipBlanks rest with
        | ',' :: rest => do
            let rest := skipBlanks rest
            match ← cutAddress style rest with
            | (some last, rest) => pure (some last, skipBlanks rest)
            | (none, _) => refuse (rest.drop 1) "unexpected \x60,'"
        | rest => pure (none, rest)
      let isToPart := match last with
        | some (.having _) => true
        | _ => false
      if first = .number 0 ∧ isToPart = false then refuse (rest.drop 1) "invalid usage of line address 0"
      pure ((some first, last), rest)

/-- Reads the end of a command, behind which a brace or a comment may stand. -/
def cutEnd (text : Text) : Except EditFault Text :=
  match skipBlanks text with
  | [] => .ok []
  | c :: rest =>
      if c = ';' ∨ c = '\n' then .ok rest
      else if c = '\x7d' ∨ c = '#' then .ok (c :: rest)
      else refuse rest "extra characters after command"

/-- The name of a file, which goes on to the end of the line. -/
def cutFile : Reader Text := fun text =>
  let text := skipBlanks text
  let name := text.takeWhile (· ≠ '\n')
  let rest := text.drop name.length
  if name = [] then refuse rest "missing filename in r/R/w/W commands" else .ok (name, rest.drop 1)

/-- The name of a mark. -/
def cutLabel (text : Text) : Text × Text :=
  let text := skipBlanks text
  let label := text.takeWhile fun c => !(Arithmetic.isSpace c || c = ';' || c = '\x7d')
  (label, text.drop label.length)

/-- What has been read behind a replacement. -/
structure Flags where
  first : Option Nat := none
  all : Bool := false
  prints : Bool := false
  folds : Bool := false
  inLines : Bool := false
  file : Option Text := none

/-- The flags behind a replacement, up to the end of the command. `fuel` bounds the steps. -/
def cutFlags : (fuel : Nat) → Flags → Reader Flags
  | 0, flags, text => .ok (flags, text)
  | _, flags, [] => .ok (flags, [])
  | fuel + 1, flags, c :: rest => do
      if c = 'g' then
        if flags.all then refuse rest "multiple \x60g' options to \x60s' command"
        cutFlags fuel { flags with all := true } rest
      else if c = 'p' then
        if flags.prints then refuse rest "multiple \x60p' options to \x60s' command"
        cutFlags fuel { flags with prints := true } rest
      else if c = 'i' ∨ c = 'I' then cutFlags fuel { flags with folds := true } rest
      else if c = 'm' ∨ c = 'M' then cutFlags fuel { flags with inLines := true } rest
      else if c = 'w' then
        let (name, rest) ← cutFile rest
        pure ({ flags with file := some name }, rest)
      else if c.isDigit then
        let (number, rest) := cutNumber (c :: rest)
        if flags.first.isSome then refuse rest "multiple number options to \x60s' command"
        if number = 0 then refuse rest "number option to \x60s' command may not be zero"
        cutFlags fuel { flags with first := some number } rest
      else if c = ' ' ∨ c = '\t' ∨ c = '\r' then cutFlags fuel flags rest
      else if c = '\x7d' ∨ c = '#' then pure (flags, c :: rest)
      else if c = ';' ∨ c = '\n' then pure (flags, rest)
      else refuse rest "unknown option to \x60s'"

/-- What is wrong with a text that replaces a part, if it has a group that the expression does not have. -/
def missingGroup? (parts : List Replacement) (expression : EditExpression) : Option Text :=
  let greatest := parts.foldl (fun greatest part => match part with
    | .group number => max greatest number
    | _ => greatest) 0
  if expression.expression.groupCount < greatest then
    some ("invalid reference \\".toList ++ Text.decimal greatest ++ " on \x60s' command's RHS".toList)
  else none

/-- Reads how a part is replaced, behind the letter. -/
def cutSubstitution (style : ExpressionStyle) : Reader EditAction := fun text => do
  let unfinished (rest : Text) : Except EditFault (EditAction × Text) := refuse rest "unterminated \x60s' command"
  match text with
  | [] => unfinished []
  | mark :: rest =>
      match cutAtMark true mark (rest.length + 1) rest with
      | .error rest => unfinished rest
      | .ok (written, rest) =>
          match cutAtMark false mark (rest.length + 1) rest with
          | .error rest => unfinished rest
          | .ok (new, rest) => do
              let (flags, rest) ← cutFlags (rest.length + 1) {} rest
              let expression ← readExpression style flags.folds flags.inLines written rest
              let parts := replacements (new.length + 1) new
              if let some message := expression.bind (missingGroup? parts) then throw (.before rest message)
              pure (.replace ⟨expression, parts, flags.first.getD 1, flags.all, flags.prints, flags.file⟩, rest)

/-- Reads which characters are exchanged, behind the letter. -/
def cutExchange : Reader EditAction := fun text => do
  let unfinished (rest : Text) : Except EditFault (EditAction × Text) := refuse rest "unterminated \x60y' command"
  match text with
  | [] => unfinished []
  | mark :: rest =>
      match cutAtMark false mark (rest.length + 1) rest with
      | .error rest => unfinished rest
      | .ok (old, rest) =>
          match cutAtMark false mark (rest.length + 1) rest with
          | .error rest => unfinished rest
          | .ok (new, rest) => do
              let old := unprotected (old.length + 1) old
              let new := unprotected (new.length + 1) new
              if old.length ≠ new.length then refuse rest "strings for \x60y' command are different lengths"
              pure (.exchange (old.zip new), ← cutEnd rest)

/-- The lines of a text up to one that does not end in a backslash, with the backslashes, and the text behind them. A
backslash at the very end is left away. -/
def cutLines : Text → Text × Text
  | [] => ([], [])
  | '\n' :: rest => ([], rest)
  | ['\\'] => ([], [])
  | '\\' :: c :: rest =>
      let (text, rest) := cutLines rest
      ('\\' :: c :: text, rest)
  | c :: rest =>
      let (text, rest) := cutLines rest
      (c :: text, rest)

/-- Reads a text that is put somewhere, behind the letter. It begins in the next line behind a backslash; in the same
line blanks in front belong to it only behind a backslash. -/
def cutText (place : TextPlace) : Reader EditAction := fun text =>
  let lines (text : Text) : Except EditFault (EditAction × Text) :=
    let (written, rest) := cutLines text
    .ok (.text place (unprotected (written.length + 1) written ++ ['\n']), rest)
  match skipBlanks text with
  | [] => refuse [] "expected \\ after \x60a', \x60c' or \x60i'"
  | ['\\'] => .ok (.text place [], [])
  | ['\\', '\n'] => .ok (.text place [], [])
  | '\\' :: '\n' :: rest => lines rest
  | '\\' :: rest => lines rest
  | text => lines text

/-- Reads an action that has nothing but its letter. -/
def plainAction? (letter : Char) : Option EditAction :=
  match letter with
  | 'd' => some .delete
  | 'D' => some .deleteFirst
  | 'p' => some .print
  | 'P' => some .printFirst
  | '=' => some .number
  | 'F' => some .nameFile
  | 'n' => some .next
  | 'N' => some .appendNext
  | 'h' => some (.hold .keep)
  | 'H' => some (.hold .keepMore)
  | 'g' => some (.hold .recall)
  | 'G' => some (.hold .recallMore)
  | 'x' => some (.hold .exchange)
  | 'z' => some .clear
  | _ => none

/-- The places where a text is put, by the letters of the commands. -/
def textPlace? (letter : Char) : Option TextPlace :=
  [('a', TextPlace.behind), ('i', .before), ('c', .instead)].lookup letter

/-- When a command goes on at a mark, by its letter. -/
def jumpMoment? (letter : Char) : Option JumpMoment :=
  [('b', JumpMoment.always), ('t', .ifReplaced), ('T', .unlessReplaced)].lookup letter

/-- What a command does with a file, by its letter. -/
def fileAction? (letter : Char) : Option (Text → EditAction) :=
  match letter with
  | 'r' => some .readFile
  | 'R' => some .readLine
  | 'w' => some fun name => .write name false
  | 'W' => some fun name => .write name true
  | _ => none

/-- Whether a version that a script asks for is newer than the one whose commands are known. -/
def isNewer (version : Text) : Bool :=
  match (Text.segments '.' version).map (Nat.ofDigitChars 10 · 0) with
  | major :: minor :: _ => decide (4 < major) || (major = 4 && decide (9 < minor))
  | [major] => decide (4 < major)
  | [] => false

/-- The action at the beginning of a text that follows addresses, of which there are as many as is told. -/
def cutAction (style : ExpressionStyle) (addresses : Nat) : Reader EditAction := fun text => do
  match text with
  | [] => refuse [] "missing command"
  | letter :: rest =>
      match plainAction? letter, textPlace? letter, jumpMoment? letter, fileAction? letter with
      | some action, _, _, _ => pure (action, ← cutEnd rest)
      | _, some place, _, _ => cutText place rest
      | _, _, some moment, _ => do
          let (label, rest) := cutLabel rest
          pure (.jump moment label, ← cutEnd rest)
      | _, _, _, some action => do
          let (name, rest) ← cutFile rest
          pure (action name, rest)
      | none, none, none, none =>
          if letter = 's' then cutSubstitution style rest
          else if letter = 'y' then cutExchange rest
          else if letter = '\x7b' then pure (.opening, rest)
          else if letter = 'v' then do
            let (version, rest) := cutLabel rest
            if isNewer version then refuse rest "expected newer version of sed"
            pure (.nothing, ← cutEnd rest)
          else if letter = ':' then do
            if 0 < addresses then refuse rest ": doesn't want any addresses"
            let (label, rest) := cutLabel rest
            if label = [] then refuse rest "\":\" lacks a label"
            pure (.mark label, rest)
          else if letter = 'q' ∨ letter = 'Q' ∨ letter = 'l' then do
            if 1 < addresses ∧ letter ≠ 'l' then refuse rest "command only uses one address"
            let digits := (skipBlanks rest).takeWhile Char.isDigit
            let (number, rest) := cutNumber (skipBlanks rest)
            let action := if letter = 'l' then .list (if digits = [] then none else some number)
              else .quit (letter = 'q') number
            pure (action, ← cutEnd rest)
          else .error (.before rest ("unknown command: \x60".toList ++ [letter, '\'']))

/-- A text without the blanks and the signs between commands in front. -/
def skipBetween (text : Text) : Text :=
  text.dropWhile fun c => Arithmetic.isSpace c || c = ';'

/-- Reads what stands before the next command: a command or the end of a block with its number, or a comment, which is
no command. Behind it are the rest of the script and the rests behind which blocks have been opened, the innermost
first; at the end of a script there is nothing. -/
def readNext (style : ExpressionStyle) (place : Nat) (blocks : List Text) (text : Text) :
    Except EditFault (Option (Option EditCommand × List Text × Text)) := do
  match skipBetween text, blocks with
  | [], opened :: _ => throw (.unclosed opened)
  | [], [] => pure none
  | text, blocks => do
      let ((first, last), rest) ← cutAddresses style text
      let rest := skipBlanks rest
      let negated := rest.head? = some '!'
      let rest := if negated then skipBlanks (rest.drop 1) else rest
      if negated && rest.head? = some '!' then refuse (rest.drop 1) "multiple \x60!'s"
      let addresses := first.toList.length + last.toList.length
      match rest with
      | '#' :: comment => do
          if 0 < addresses then refuse comment "comments don't accept any addresses"
          pure (some (none, blocks, comment.dropWhile (· ≠ '\n')))
      | '\x7d' :: rest => do
          if blocks = [] then refuse rest "unexpected \x60\x7d'"
          if 0 < addresses then refuse rest "\x60\x7d' doesn't want any addresses"
          pure (some (some ⟨place, none, none, false, .closing⟩, blocks.drop 1, ← cutEnd rest))
      | rest => do
          let (action, rest) ← cutAction style addresses rest
          let blocks := if action = .opening then rest :: blocks else blocks
          pure (some (some ⟨place, first, last, negated, action⟩, blocks, rest))

/-- Reads commands up to the end of a script or to what is wrong with it. `fuel` bounds their number. -/
def readCommands (style : ExpressionStyle) : (fuel : Nat) → (place : Nat) → (blocks : List Text) → Text →
    List EditCommand × Option EditFault
  | 0, _, _, _ => ([], none)
  | fuel + 1, place, blocks, text =>
      match readNext style place blocks text with
      | .error fault => ([], some fault)
      | .ok none => ([], none)
      | .ok (some (command, blocks, rest)) =>
          let (others, fault) := readCommands style fuel (place + 1) blocks rest
          (command.toList ++ others, fault)

/-- The commands from a mark on. -/
def fromMark? (label : Text) : List EditCommand → Option (List EditCommand)
  | [] => none
  | command :: rest => if command.action = .mark label then some rest else fromMark? label rest

/-- The commands behind the end of a block inside of which so many others have been opened. -/
def behindBlock : (inner : Nat) → List EditCommand → List EditCommand
  | _, [] => []
  | inner, command :: rest =>
      match command.action, inner with
      | .opening, inner => behindBlock (inner + 1) rest
      | .closing, 0 => rest
      | .closing, inner + 1 => behindBlock inner rest
      | _, inner => behindBlock inner rest

/-- The first mark at which a script goes on and that is not there. -/
def missingMark? (commands : List EditCommand) : Option Text :=
  commands.findSome? fun command => match command.action with
    | .jump _ label => if label ≠ [] ∧ (fromMark? label commands).isNone = true then some label else none
    | _ => none

/-- Reads a script, and tells what is wrong with it, if anything is. -/
def read (style : ExpressionStyle) (text : Text) : List EditCommand × Option EditFault :=
  let (commands, fault) := readCommands style (text.length + 1) 0 [] text
  (commands, fault.or ((missingMark? commands).map .unmarked))

/-- The files that a script reads. -/
def filesRead (commands : List EditCommand) : List Text :=
  commands.filterMap fun command => match command.action with
    | .readFile name => some name
    | .readLine name => some name
    | _ => none

/-- The files that a script writes. -/
def filesWritten (commands : List EditCommand) : List Text :=
  commands.filterMap fun command => match command.action with
    | .write name _ => some name
    | .replace substitution => substitution.file
    | _ => none

end EditScript

end SecureShell.Rehearsal.Shell
