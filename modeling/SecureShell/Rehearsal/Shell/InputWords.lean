/-
Module: SecureShell.Rehearsal.Shell.InputWords
Purpose: The program that runs another one with the words of its input as arguments.
Main exports: quotedWords, commandsFor, runWithWords
-/
import SecureShell.Rehearsal.Shell.Relaying

namespace SecureShell.Rehearsal.Shell

/-- The words of a text, at blanks and line ends. Quotes and backslashes protect what they stand around or
before. `quote` is the quote that is open, and `word` the word so far, the last character first. -/
def quotedWords (quote : Option Char) (word : Option Text) : Text → List Text
  | [] => (word.map List.reverse).toList
  | c :: rest =>
      match quote with
      | some mark =>
          if c = mark then quotedWords none word rest else quotedWords quote (some (c :: word.getD [])) rest
      | none =>
          if c ∈ [' ', '\t', '\n'] then (word.map List.reverse).toList ++ quotedWords none none rest
          else if c = '"' ∨ c = '\'' then quotedWords (some c) (some (word.getD [])) rest
          else if c = '\\' then
            match rest with
            | [] => quotedWords none word []
            | next :: rest => quotedWords none (some (next :: word.getD [])) rest
          else quotedWords none (some (c :: word.getD [])) rest

/-- The words of a text. -/
def blankWords (text : Text) : List Text :=
  quotedWords none none text

/-- The texts before and between null characters. -/
def nullWords (text : Text) : List Text :=
  let words := Text.segments '\x00' text
  if words.getLast? = some [] then words.dropLast else words

/-- A text in which a mark is exchanged for another text. `fuel` bounds the steps. -/
def exchangeMark (mark value : Text) : (fuel : Nat) → Text → Text
  | 0, text => text
  | _, [] => []
  | fuel + 1, c :: rest =>
      if mark ≠ [] ∧ mark.isPrefixOf (c :: rest) then
        value ++ exchangeMark mark value fuel ((c :: rest).drop mark.length)
      else c :: exchangeMark mark value fuel rest

/-- The options of the program that makes arguments of its input. -/
def wordOptions : OptionTable where
  plain := ['0', 'r', 't', 'x', 'p', 'o']
  valued := ['n', 'L', 'I', 'd', 'P', 's', 'E', 'a']
  optional := ['i', 'l', 'e']
  names := [("null", '0'), ("no-run-if-empty", 'r'), ("max-args", 'n'), ("max-lines", 'L'), ("replace", 'I'),
    ("delimiter", 'd'), ("max-procs", 'P'), ("verbose", 't'), ("exit", 'x'), ("arg-file", 'a')]
  everywhere := false

/-- Lists of so many items each, of which the last one may be shorter. `fuel` bounds their number. -/
def portions {α : Type} (size : Nat) : (fuel : Nat) → List α → List (List α)
  | 0, _ => []
  | _, [] => []
  | fuel + 1, items => items.take size :: portions size fuel (items.drop size)

/-- The words at the input, as the options of a program tell. -/
def wordsAt (options : Arguments) (text : Text) : List Text :=
  match options.has '0', options.value? 'd', options.has 'I' with
  | true, _, _ => nullWords text
  | false, some mark, _ =>
      let words := Text.segments (if mark = ['\\', 'n'] then '\n' else mark.headD '\n') text
      if words.getLast? = some [] then words.dropLast else words
  | false, none, true =>
      ((Filters.linesOf text).map fun line => line.dropWhile Arithmetic.isSpace).filter (· ≠ [])
  | false, none, false => blankWords text

/-- The commands that are made of a command and words: with all of them, with so many at a time, or with each
of them in the place of a mark. -/
def commandsFor (options : Arguments) (words : List Text) : List (List Text) :=
  let command := if options.operands = [] then ["echo".toList] else options.operands
  let size := (((options.value? 'n').or (options.value? 'L')).bind count?).getD (words.length + 1)
  let mark := match options.value? 'i' with
    | some [] => some ['\x7b', '\x7d']
    | mark => mark.or (options.value? 'I')
  match mark with
  | some mark => words.map fun word =>
      command.map fun (argument : Text) => exchangeMark mark word (argument.length + 1) argument
  | none =>
      if words = [] then (if options.has 'r' then [] else [command])
      else (portions (max size 1) words.length words).map (command ++ ·)

/-- Runs commands one after the other as long as none of them asks to stop, and gives the status of all
together. -/
def runEachCommand (next : List Text → Run Unit) : (joined : Nat) → List (List Text) → Run Unit
  | joined, [] => finish joined
  | joined, command :: rest => do
      next command
      let status := (← get).status
      if status = 255 then
        tell ("xargs: ".toList ++ command.headD [] ++ ": exited with status 255; aborting\n".toList)
        finish 124
      else if status = 126 ∨ status = 127 then finish status
      else runEachCommand next (if status = 0 then joined else 123) rest

/-- Runs a program with the words at the input as further arguments. -/
def runWithWords (next : List Text → Run Unit) (called : Text) (arguments : List Text) : Run Unit :=
  understood called 1 (wordOptions.read arguments) fun options => do
    let words := wordsAt options (← takeInput)
    let empty ← newInput [] .nothing .device
    modify (·.withStream 0 (some empty))
    let next (command : List Text) : Run Unit := do
      if options.has 't' then tell (List.intercalate [' '] command ++ ['\n'])
      next command
    runEachCommand next 0 (commandsFor options words)

end SecureShell.Rehearsal.Shell
