/-
Module: SecureShell.Rehearsal.Shell.Reading
Purpose: Commands are read from the text of a script. A script is read line by line, so that what stands in
  front of a mistake is run before the mistake is found; a command that is not complete at the end of its
  line goes on in the next one.
Main exports: Aliases, readRedirection, readCommands, Reading, readLine
-/
import SecureShell.Rehearsal.Shell.Word

namespace SecureShell.Rehearsal.Shell

/-- A text without the blanks and the comments in front, and without line ends there if they do not matter.
Hidden line ends are left out there and in what comes first behind that. -/
def skip (acrossLines : Bool) : (inComment : Bool) → Text → Text
  | _, [] => []
  | true, c :: rest =>
      if c ≠ '\n' then skip acrossLines true rest
      else if acrossLines then skip acrossLines false rest
      else c :: rest
  | false, '\\' :: '\n' :: rest => skip acrossLines false rest
  | false, c :: rest =>
      if c = ' ' ∨ c = '\t' ∨ (c = '\n' ∧ acrossLines = true) then skip acrossLines false rest
      else if c = '#' then skip acrossLines true rest
      else withoutBreaks (c :: rest)

/-- A text without the blanks in front. -/
def skipBlanks (text : Text) : Text :=
  skip false false text

/-- A text without the blanks and line ends in front. -/
def skipLines (text : Text) : Text :=
  skip true false text

/-- The words that have a meaning where a command begins. -/
def reservedWords : List Text :=
  ["!", "\x7b", "\x7d", "case", "do", "done", "elif", "else", "esac", "fi", "for", "if", "in", "then",
    "until", "while"].map String.toList

/-- The reserved words that end a list of commands. -/
def closingWords : List Text :=
  ["\x7d", "do", "done", "elif", "else", "esac", "fi", "then"].map String.toList

/-- The names of commands that belong to the language itself and cannot be defined anew. -/
def specialNames : List Text :=
  [".", ":", "break", "continue", "eval", "exec", "exit", "export", "readonly", "return", "set", "shift",
    "times", "trap", "unset"].map String.toList

/-- The characters in front that would make up a word without quotes. -/
def plainFront (text : Text) : Text :=
  text.takeWhile fun c => !endsWord c

/-- The reserved word at the beginning of a text, and the text behind it. -/
def cutReserved (text : Text) : Option (Text × Text) :=
  let front := plainFront text
  if front ∈ reservedWords then some (front, text.drop front.length) else none

/-- The text behind a reserved word that has to stand at the beginning. -/
def expect (word : String) (text : Text) : Option Text :=
  match cutReserved text with
  | some (found, rest) => if found = word.toList then some rest else none
  | none => none

/-- Whether a list of commands ends here. -/
def endsList (text : Text) : Bool :=
  match text with
  | [] => true
  | ')' :: _ => true
  | ';' :: ';' :: _ => true
  | text => match cutReserved text with
      | some (word, _) => closingWords.contains word
      | none => false

/-- The character that a fragment is, if it is one that may stand in a name. -/
def nameChar? (fragment : Fragment) : Option Char :=
  match fragment with
  | .char c false => if isNameChar c then some c else none
  | _ => none

/-- The assignment that a word is. -/
def assignment? (word : Word) : Option Assignment :=
  let name := (word.takeWhile fun fragment => (nameChar? fragment).isSome).filterMap nameChar?
  match word.drop name.length with
  | .char '=' false :: value => if isName name then some ⟨name, value⟩ else none
  | _ => none

/-- The stream that a redirection at the beginning of a text names, if it names one, and the text from its
operator on. -/
def cutStream : Text → Option (Option Nat × Text)
  | [] => none
  | c :: rest =>
      if c = '<' ∨ c = '>' then some (none, c :: rest)
      else
        match rest with
        | next :: _ =>
            if c.isDigit ∧ (next = '<' ∨ next = '>') then some (some (c.toNat - '0'.toNat), rest)
            else none
        | [] => none

/-- The kind of a redirection with the stream that it means without being told, and the text behind its
operator. -/
def cutRedirector : Text → Option (RedirectionKind × Nat × Text)
  | '<' :: '<' :: rest => some (.readText, 0, rest)
  | '<' :: '&' :: rest => some (.copyStream, 0, rest)
  | '<' :: '>' :: rest => some (.openFile, 0, rest)
  | '<' :: rest => some (.readFile, 0, rest)
  | '>' :: '>' :: rest => some (.appendFile, 1, rest)
  | '>' :: '&' :: rest => some (.copyStream, 1, rest)
  | '>' :: '|' :: rest => some (.overwriteFile, 1, rest)
  | '>' :: rest => some (.writeFile, 1, rest)
  | _ => none

/-- Whether a line goes on with the next one: it ends with a backslash that no other one protects. -/
def goesOn (line : Text) : Bool :=
  (line.reverse.takeWhile (· = '\\')).length % 2 = 1

/-- How the lines of a document are read: whether tabs in front of them are left out, whether a line can go on
with the next one, and what the line behind the last one is. -/
structure DocumentLines where
  withoutTabs : Bool
  canGoOn : Bool
  last : Text

/-- The lines of a document up to its last one, and the lines behind that. `continued` tells whether the first
of them belongs to a line before, so that it has neither tabs to leave out nor the end in it. -/
def cutDocumentLines (reading : DocumentLines) (continued : Bool) : List Text → Text × List Text
  | [] => ([], [])
  | line :: rest =>
      let line := if reading.withoutTabs && !continued then line.dropWhile (· = '\t') else line
      if line = reading.last ∧ continued = false then ([], rest)
      else
        let continues := reading.canGoOn && goesOn line && (continued || line.length ≠ 1)
        let (body, behind) := cutDocumentLines reading continues rest
        (line ++ (if rest = [] then [] else ['\n']) ++ body, behind)

/-- The text from the end of its first line on. Line ends within words do not count. `fuel` bounds the
steps. -/
def fromLineEnd (commands : CommandReader) : (fuel : Nat) → Text → Option Text
  | 0, _ => none
  | fuel + 1, text =>
      match skipBlanks text with
      | [] => some []
      | '\n' :: rest => some ('\n' :: rest)
      | c :: rest =>
          if endsWord c then fromLineEnd commands fuel rest
          else do
            let (_, behind) ← readWord commands fuel (c :: rest)
            fromLineEnd commands fuel behind

/-- Takes a document out of a text. It begins behind the line in which it is announced. -/
def cutDocument (commands : CommandReader) (fuel : Nat) (reading : DocumentLines) (text : Text) :
    Text × Text :=
  match fromLineEnd commands fuel text with
  | some ('\n' :: rest) =>
      let line := text.take (text.length - rest.length)
      let (body, behind) := cutDocumentLines reading false (Text.segments '\n' rest)
      (body, line ++ List.intercalate ['\n'] behind)
  | _ => ([], text)

/-- Reads the redirection at the beginning of a text. -/
def readRedirection (commands : CommandReader) (fuel : Nat) (text : Text) :
    Option (Redirection × Text) := do
  let (named, rest) ← cutStream text
  let (kind, usual, rest) ← cutRedirector rest
  let stream := named.getD usual
  if kind = .readText then
    let withoutTabs := rest.head? = some '-'
    let start := skipBlanks (if withoutTabs then rest.drop 1 else rest)
    let (last, rest) ← readWord commands fuel start
    let mark := if isPlain last then unquotedText last else start.take (start.length - rest.length)
    let (body, rest) := cutDocument commands fuel ⟨withoutTabs, isUnquoted last, mark⟩ rest
    let target ←
      if isUnquoted last then (readFragments commands fuel .document [] body).map (·.1)
      else some (Word.literal body)
    pure (⟨stream, kind, target⟩, rest)
  else
    let (target, rest) ← readWord commands fuel (skipBlanks rest)
    pure (⟨stream, kind, target⟩, rest)

/-- Reads the redirections behind a command. `fuel` bounds the steps. -/
def readRedirections (commands : CommandReader) :
    (fuel : Nat) → Text → Option (List Redirection × Text)
  | 0, _ => none
  | fuel + 1, text =>
      let text := skipBlanks text
      if (cutStream text).isNone then some ([], text)
      else do
        let (first, rest) ← readRedirection commands fuel text
        let (others, rest) ← readRedirections commands fuel rest
        pure (first :: others, rest)

/-- Reads words up to the end of a line. `fuel` bounds the steps. -/
def readWords (commands : CommandReader) : (fuel : Nat) → Text → Option (List Word × Text)
  | 0, _ => none
  | fuel + 1, text =>
      match skipBlanks text with
      | [] => none
      | '\n' :: rest => some ([], rest)
      | ';' :: ';' :: _ => none
      | ';' :: rest => some ([], rest)
      | text => do
          let (first, rest) ← readWord commands fuel text
          let (others, rest) ← readWords commands fuel rest
          pure (first :: others, rest)

/-- Reads the patterns of a branch up to the parenthesis behind them. `fuel` bounds the steps. -/
def readPatterns (commands : CommandReader) : (fuel : Nat) → Text → Option (List Word × Text)
  | 0, _ => none
  | fuel + 1, text => do
      let (first, rest) ← readWord commands fuel (skipBlanks text)
      match skipBlanks rest with
      | ')' :: rest => pure ([first], rest)
      | '|' :: '|' :: _ => none
      | '|' :: rest =>
          let (others, rest) ← readPatterns commands fuel rest
          pure (first :: others, rest)
      | _ => none

/-- Names that stand for other texts where a command begins. -/
abbrev Aliases := List (Text × Text)

/-- A text in which the name at the beginning has been exchanged for what it stands for, again and again,
but none twice. Behind something that ends with a blank the next word is looked at as well: with the text
comes the length of what is left there. -/
def exchange : (fuel : Nat) → Aliases → (reservedToo : Bool) → Text → Text × Option Nat
  | 0, _, _, text => (text, none)
  | fuel + 1, aliases, reservedToo, text =>
      let front := plainFront text
      match aliases.lookup front with
      | none => (text, none)
      | some meant =>
          if front.any isActiveSign || (reservedToo && reservedWords.contains front) then (text, none)
          else
            let rest := text.drop front.length
            let others := aliases.filter (·.1 ≠ front)
            let (text, inside) := exchange fuel others reservedToo (skipBlanks (meant ++ rest))
            let isOpen := meant.getLast?.any fun c => c = ' ' || c = '\t'
            (text, inside.or (if isOpen then some rest.length else none))

/-- What has been read of a simple command, the last of each kind first. `isPlain` tells whether the next
word has been looked at already for what it might stand for; it is to be looked at when no more is left of
the text than `openAt` says. -/
structure SimpleDraft where
  line : Unit → Nat
  assignments : List Assignment
  words : List Word
  redirections : List Redirection
  isPlain : Bool
  openAt : Option Nat

namespace SimpleDraft

/-- Nothing has been read. -/
def empty (line : Unit → Nat) (openAt : Option Nat) : SimpleDraft := ⟨line, [], [], [], true, openAt⟩

/-- Whether the next word, at the beginning of a text, may stand for something else. -/
def asksExchange (draft : SimpleDraft) (text : Text) : Bool :=
  (draft.words.isEmpty && !draft.isPlain) || draft.openAt.any (text.length ≤ ·)

/-- The draft with one more word, which is an assignment if no other word stands in front. -/
def add (draft : SimpleDraft) (word : Word) : SimpleDraft :=
  match draft.words, assignment? word with
  | [], some assigned =>
      { draft with assignments := assigned :: draft.assignments, isPlain := false }
  | words, _ => { draft with words := word :: words, isPlain := false }

/-- The command that has been read, unless it is nothing. -/
def command? (draft : SimpleDraft) : Option Script :=
  match draft with
  | ⟨_, [], [], [], _, _⟩ => none
  | ⟨line, assignments, words, redirections, _, _⟩ =>
      some (.simple line assignments.reverse words.reverse redirections.reverse)

/-- The name under which a parenthesis now begins the definition of a command. -/
def definedName? (draft : SimpleDraft) : Option Text :=
  match draft with
  | ⟨_, [], [word], [], _, _⟩ =>
      (plainText word).filter fun name => isName name && !specialNames.contains name
  | _ => none

end SimpleDraft

section

variable (aliases : Aliases) (lineOf : Text → Nat)

mutual

/-- Reads commands one after the other up to what ends them; there has to be one unless there may be
none. `fuel` bounds the steps; `before` holds the commands read so far, the last one first. -/
def readCommands : (fuel : Nat) → (mayBeNone : Bool) → (before : List Script) → Text →
    Option (List Script × Text)
  | 0, _, _, _ => none
  | fuel + 1, mayBeNone, before, text =>
      let text := skipLines text
      if mayBeNone && endsList text then some (before.reverse, text)
      else do
        let (command, rest) ← readConditional fuel text
        match rest with
        | '\n' :: _ => readCommands fuel true (command :: before) rest
        | ';' :: ';' :: _ => pure ((command :: before).reverse, rest)
        | ';' :: rest => readCommands fuel true (command :: before) rest
        | '&' :: rest => readCommands fuel true (.background command :: before) rest
        | rest => pure ((command :: before).reverse, rest)

/-- Reads pipelines of which one decides about the next. -/
def readConditional : (fuel : Nat) → Text → Option (Script × Text)
  | 0, _ => none
  | fuel + 1, text => do
      let (first, rest) ← readPipeline fuel text
      readConditions fuel first rest

/-- Reads on behind a pipeline. -/
def readConditions : (fuel : Nat) → Script → Text → Option (Script × Text)
  | 0, _, _ => none
  | fuel + 1, first, '&' :: '&' :: rest => do
      let (second, rest) ← readPipeline fuel (skipLines rest)
      readConditions fuel (.both first second) rest
  | fuel + 1, first, '|' :: '|' :: rest => do
      let (second, rest) ← readPipeline fuel (skipLines rest)
      readConditions fuel (.either first second) rest
  | _ + 1, first, rest => some (first, rest)

/-- Reads commands of which one feeds the next. -/
def readPipeline : (fuel : Nat) → Text → Option (Script × Text)
  | 0, _ => none
  | fuel + 1, text => do
      let opposite := expect "!" text
      let (first, rest) ← readCommand fuel (skipBlanks (opposite.getD text))
      let (stages, rest) ← readStages fuel [first] rest
      let pipeline := match stages with
        | [only] => only
        | stages => .piped stages
      pure (if opposite.isSome then .negated pipeline else pipeline, rest)

/-- Reads on behind a command that may feed another one. -/
def readStages : (fuel : Nat) → (before : List Script) → Text → Option (List Script × Text)
  | 0, _, _ => none
  | _ + 1, before, '|' :: '|' :: rest => some (before.reverse, '|' :: '|' :: rest)
  | fuel + 1, before, '|' :: rest => do
      let (next, rest) ← readCommand fuel (skipLines rest)
      readStages fuel (next :: before) rest
  | _ + 1, before, rest => some (before.reverse, rest)

/-- Reads one command and the blanks behind it. -/
def readCommand : (fuel : Nat) → Text → Option (Script × Text)
  | 0, _ => none
  | fuel + 1, text =>
      let (text, openAt) := exchange (aliases.length + 1) aliases true text
      match text.head?, cutReserved text with
      | some '(', _ => do
          match ← readCommands fuel false [] (text.drop 1) with
          | (body, ')' :: rest) => readBehind fuel (.subshell body) rest
          | _ => none
      | _, none => readSimple fuel (.empty (fun _ => lineOf text) openAt) text
      | _, some (word, rest) =>
          if word = ['{'] then do
            let (body, rest) ← readCommands fuel false [] rest
            readBehind fuel (.group body) (← expect "\x7d" rest)
          else if word = "if".toList then do
            let (choice, rest) ← readChoice fuel rest
            readBehind fuel choice rest
          else if word = "while".toList ∨ word = "until".toList then do
            let (condition, rest) ← readCommands fuel false [] rest
            let (body, rest) ← readCommands fuel false [] (← expect "do" rest)
            readBehind fuel (.repetition (word = "until".toList) condition body)
              (← expect "done" rest)
          else if word = "for".toList then do
            let text := skipBlanks rest
            let name := plainFront text
            let rest := skipLines (text.drop name.length)
            if isName name then
              let (words, rest) ← match expect "in" rest with
                | some rest =>
                    (readWords (fun text => readCommands fuel true [] text) fuel rest).map fun
                      (words, rest) => (some words, rest)
                | none => match rest with
                    | ';' :: ';' :: _ => none
                    | ';' :: rest => some (none, rest)
                    | rest => some (none, rest)
              let (body, rest) ← readCommands fuel false [] (← expect "do" (skipLines rest))
              readBehind fuel (.forEach name words body) (← expect "done" rest)
            else none
          else if word = "case".toList then do
            let commands : CommandReader := fun text => readCommands fuel true [] text
            let (subject, rest) ← readWord commands fuel (skipBlanks rest)
            let (branches, rest) ← readBranches fuel (← expect "in" (skipLines rest))
            readBehind fuel (.matching subject branches) rest
          else none

/-- Reads the redirections behind a command that is made of others. -/
def readBehind : (fuel : Nat) → Script → Text → Option (Script × Text)
  | 0, _, _ => none
  | fuel + 1, body, text => do
      let commands : CommandReader := fun text => readCommands fuel true [] text
      match ← readRedirections commands fuel text with
      | ([], rest) => pure (body, rest)
      | (redirections, rest) => pure (.redirected body redirections, rest)

/-- Reads a condition with what it decides about. -/
def readChoice : (fuel : Nat) → Text → Option (Script × Text)
  | 0, _ => none
  | fuel + 1, text => do
      let (condition, rest) ← readCommands fuel false [] text
      let (yes, rest) ← readCommands fuel false [] (← expect "then" rest)
      let (word, rest) ← cutReserved rest
      if word = "elif".toList then
        let (other, rest) ← readChoice fuel rest
        pure (.choice condition yes [other], rest)
      else if word = "else".toList then
        let (no, rest) ← readCommands fuel false [] rest
        pure (.choice condition yes no, ← expect "fi" rest)
      else if word = "fi".toList then pure (.choice condition yes [], rest)
      else none

/-- Reads the branches of a choice by pattern. -/
def readBranches : (fuel : Nat) → Text → Option (List Branch × Text)
  | 0, _ => none
  | fuel + 1, text => do
      let commands : CommandReader := fun text => readCommands fuel true [] text
      let text := skipLines text
      match expect "esac" text with
      | some rest => pure ([], rest)
      | none =>
          let text := if text.head? = some '(' then text.drop 1 else text
          let (patterns, rest) ← readPatterns commands fuel text
          let (body, rest) ← readCommands fuel true [] rest
          match skipLines rest with
          | ';' :: ';' :: rest =>
              let (others, rest) ← readBranches fuel rest
              pure (⟨patterns, body⟩ :: others, rest)
          | rest => pure ([⟨patterns, body⟩], ← expect "esac" rest)

/-- Reads a simple command, or the definition of a command. -/
def readSimple : (fuel : Nat) → SimpleDraft → Text → Option (Script × Text)
  | 0, _, _ => none
  | fuel + 1, draft, text =>
      let commands : CommandReader := fun text => readCommands fuel true [] text
      let text := skipBlanks text
      if (cutStream text).isSome then do
        let (redirection, rest) ← readRedirection commands fuel text
        readSimple fuel
          { draft with redirections := redirection :: draft.redirections, isPlain := false } rest
      else if draft.asksExchange text then
        let (text, openAt) := exchange (aliases.length + 1) aliases false text
        readSimple fuel { draft with isPlain := true, openAt } text
      else
        match text, draft with
        | '(' :: rest, ⟨_, [], [_], [], _, _⟩ => do
            let name ← draft.definedName?
            match skipBlanks rest with
            | ')' :: rest =>
                let (body, rest) ← readCommand fuel (skipLines rest)
                pure (.definition name body, rest)
            | _ => none
        | text, draft =>
            if text.head?.all endsWord then (draft.command?).map (·, text)
            else do
              let (word, rest) ← readWord commands fuel text
              readSimple fuel (draft.add word) rest

end

/-- The number of the line in which the rest of a text begins. -/
def lineNumber (text rest : Text) : Nat :=
  text.count '\n' - rest.count '\n' + 1

/-- How many steps are enough to read a text. -/
def readingFuel (text : Text) : Nat :=
  (12 * text.length + 64) * aliases.foldl (fun total entry => total + entry.2.length + 1) 1

/-- What the next line of a script is: commands with the script that follows, the end, or no commands
at all. -/
inductive Reading where
  | commands (line : List Script) (rest : Text)
  | finished
  | malformed

/-- Reads on in a line. `fuel` bounds the steps; `before` holds the commands read so far, the last one
first. -/
def readLineFrom : (fuel : Nat) → (before : List Script) → Text → Reading
  | 0, _, _ => .malformed
  | fuel + 1, before, text =>
      match skipBlanks text with
      | [] => .commands before.reverse []
      | '\n' :: rest => .commands before.reverse ('\n' :: rest)
      | text =>
          match readConditional aliases lineOf fuel text with
          | none => .malformed
          | some (command, rest) =>
              match rest with
              | [] => .commands (command :: before).reverse []
              | '\n' :: rest => .commands (command :: before).reverse ('\n' :: rest)
              | ';' :: ';' :: _ => .malformed
              | ';' :: rest => readLineFrom fuel (command :: before) rest
              | '&' :: rest => readLineFrom fuel (.background command :: before) rest
              | _ => .malformed

/-- Reads the first line of a script that holds commands. -/
def readLine (text : Text) : Reading :=
  match skipLines text with
  | [] => .finished
  | text => readLineFrom aliases lineOf (readingFuel aliases text) [] text

end

end SecureShell.Rehearsal.Shell
