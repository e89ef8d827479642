/-
Module: SecureShell.Rehearsal.Shell.Editing
Purpose: How a script edits lines. Each line goes through the commands that are meant for it; what is left of it is
  written in the end unless it has been deleted, and behind it what has been put there.
Main exports: EditSetting, InputLine, EditState, Edited, Editing.edit
-/
import SecureShell.Rehearsal.Shell.EditScript

namespace SecureShell.Rehearsal.Shell

/-- How lines are edited: whether only what is asked for is written, what ends a line, how wide a line is that is
shown, and whether more of the input may come. -/
structure EditSetting where
  silent : Bool
  ending : Char
  width : Nat
  waits : Bool
deriving DecidableEq, Repr

/-- A line of the input: its text, whether it has an end, and the name of its file. -/
structure InputLine where
  text : Text
  isEnded : Bool
  file : Text
deriving DecidableEq, Repr

/-- A text that is edited or held, and whether it will have an end. -/
structure EditSpace where
  text : Text
  isEnded : Bool
deriving DecidableEq, Repr

/-- Something that is written, into the file of a name or to the output. -/
structure EditOutput where
  file : Option Text
  text : Text
deriving DecidableEq, Repr

/-- What is known of the range of a command that has begun: the number of its last line, if that is known, and whether
the first line that comes behind belongs to it where that one has been passed over; or that it is over. -/
inductive RangeState where
  | upTo (last : Nat) (reachesOut : Bool)
  | upToMatch
  | over
deriving DecidableEq, Repr

/-- What editing has come to: the line that is edited and what is held; its number and its file; the lines that follow;
whether a part has been replaced since the line was read; the ranges of commands by their places; the texts that come
behind the line; the expression that has been used last; what has been written, the last thing first, and where an end
of a line is missing there; what the files hold that commands read, and what is left of those that are read line by
line; and what is wrong. -/
structure EditState where
  line : EditSpace
  held : EditSpace
  number : Nat
  file : Text
  coming : List InputLine
  hasReplaced : Bool
  ranges : List (Nat × RangeState)
  behind : List Text
  last : Option EditExpression
  written : List EditOutput
  unended : List (Option Text)
  sources : List (Text × Text)
  remains : List (Text × Text)
  fault : Option Text
deriving DecidableEq, Repr

/-- How the commands for a line come to their end: the next line is read after this one has been written or not; they
begin again with what is left; editing is left with a status; or it does not come to its end. -/
inductive CycleEnd where
  | over (prints : Bool)
  | again
  | left (prints : Bool) (status : Nat)
  | stuck
deriving DecidableEq, Repr

namespace EditState

/-- The state before the first of some lines, with what the files hold that commands read. -/
def start (sources : List (Text × Text)) (lines : List InputLine) : EditState :=
  ⟨⟨[], true⟩, ⟨[], true⟩, 0, ['-'], lines, false, [], [], none, [], [], sources, sources, none⟩

/-- The state before other lines that are edited by themselves behind the ones before. -/
def restart (sources : List (Text × Text)) (lines : List InputLine) (state : EditState) : EditState :=
  { start sources lines with
    held := { state.held with text := [] }
    last := state.last
    unended := state.unended }

/-- Writes a text as it is, behind the end of a line that is missing. -/
def say (setting : EditSetting) (goal : Option Text) (text : Text) (state : EditState) : EditState :=
  let front := if state.unended.contains goal then [setting.ending] else []
  { state with
    written := ⟨goal, front ++ text⟩ :: state.written
    unended := state.unended.filter (· ≠ goal) }

/-- Writes a line. -/
def print (setting : EditSetting) (goal : Option Text) (line : EditSpace) (state : EditState) : EditState :=
  if line.isEnded then state.say setting goal (line.text ++ [setting.ending])
  else
    let said := state.say setting goal line.text
    { said with unended := goal :: said.unended }

/-- Writes what comes behind the line. -/
def sayBehind (setting : EditSetting) (state : EditState) : EditState :=
  let said := state.behind.foldl (fun state text => state.say setting none text) state
  { said with behind := [] }

/-- Writes the line unless only what is asked for is written. -/
def printUsually (setting : EditSetting) (state : EditState) : EditState :=
  if setting.silent then state else state.print setting none state.line

/-- Writes what comes behind the line, and the end of a line that is missing. -/
def closed (setting : EditSetting) (state : EditState) : EditState :=
  (state.sayBehind setting).say setting none []

/-- Reads the next line, perhaps behind what is edited. -/
def next? (setting : EditSetting) (appends : Bool) (state : EditState) : Option EditState :=
  match state.coming with
  | [] => none
  | line :: coming =>
      let front := if appends then state.line.text ++ [setting.ending] else []
      some { state.sayBehind setting with
        line := ⟨front ++ line.text, line.isEnded⟩
        number := state.number + 1
        file := line.file
        coming := coming
        hasReplaced := false }

/-- The state with another text to be edited. -/
def withText (state : EditState) (text : Text) : EditState :=
  { state with line := { state.line with text } }

/-- The expression that is meant, which is the one that has been used last if there is none. -/
def meant? (expression : Option EditExpression) (state : EditState) : Option EditExpression :=
  expression.or state.last

end EditState

namespace Editing

/-- The first part of a text that an expression stands for behind what has been passed, the last character of which
comes first. -/
def search (setting : EditSetting) (expression : EditExpression) (passed text : Text) : Option Occurrence :=
  let inLines := expression.inLines && setting.ending = '\n'
  Expression.searchFrom ⟨expression.folds, expression.expression.hasAgain, inLines⟩ expression.expression
    (fun _ _ => true) passed.head? [] text

/-- What is wrong where the expression is meant that has been used last and there is none. -/
def noExpression : Text := "no previous regular expression".toList

/-- Whether an address names the line that is edited. Only the last line is known by what follows. -/
def names (setting : EditSetting) (address : LineAddress) (state : EditState) : Bool × EditState :=
  match address with
  | .number number => (state.number = number, state)
  | .every first step => (first ≤ state.number && (state.number - first) % step = 0, state)
  | .final => (state.coming.isEmpty, { state with file := (state.coming.head?.map (·.file)).getD state.file })
  | .having expression =>
      match state.meant? expression with
      | none => (false, { state with fault := some noExpression })
      | some expression =>
          ((search setting expression [] state.line.text).isSome, { state with last := some expression })
  | .distance _ => (false, state)
  | .multiple _ => (false, state)

/-- The state in which the range of a command has come to something. -/
def withRange (place : Nat) (range : RangeState) (state : EditState) : EditState :=
  { state with ranges := (place, range) :: state.ranges.filter (·.1 ≠ place) }

/-- The range that begins at the line that is edited. It is over at once if its last line is not behind this one. -/
def beginning (setting : EditSetting) (last : LineAddress) (state : EditState) : RangeState :=
  let upTo (number : Nat) (reachesOut : Bool) : RangeState :=
    if number ≤ state.number then .over else .upTo number reachesOut
  match last with
  | .number number => upTo number false
  | .distance lines => upTo (state.number + lines) true
  | .multiple number => upTo (state.number + number - state.number % max 1 number) true
  | .every _ _ => if (names setting last state).1 then .over else .upToMatch
  | _ => .upToMatch

/-- Whether a range that has not begun yet begins at the line that is edited, or before it at a line of a number that
has been passed over. -/
def begins (setting : EditSetting) (first : LineAddress) (range : Option RangeState) (state : EditState) :
    Bool × EditState :=
  match first with
  | .number number => (range.isNone && number ≤ state.number, state)
  | first => names setting first state

/-- Whether the line is meant at which a range begins. One from a line that has been passed over to one that has been
passed as well has no line. -/
def isMeantFirst (first last : LineAddress) (state : EditState) : Bool :=
  match first, last with
  | .number first, .number last => state.number = first || state.number ≤ last
  | _, _ => true

/-- Whether a range that begins before the first line has not begun yet. -/
def beginsBefore (command : EditCommand) (state : EditState) : Bool :=
  command.first = some (.number 0) && (state.ranges.lookup command.place).isNone

/-- Whether a command is meant for the line that is edited, by its addresses. -/
def isMeant (setting : EditSetting) (command : EditCommand) (state : EditState) : Bool × EditState :=
  match command.first, command.last with
  | none, _ => (true, state)
  | some first, none => names setting first state
  | some first, some last =>
      let state := if beginsBefore command state then withRange command.place .upToMatch state else state
      match state.ranges.lookup command.place with
      | some (.upTo number reachesOut) =>
          (reachesOut || state.number ≤ number,
            if number ≤ state.number then withRange command.place .over state else state)
      | some .upToMatch =>
          let (isLast, state) := names setting last state
          (true, if isLast then withRange command.place .over state else state)
      | range =>
          let (isFirst, state) := begins setting first range state
          (isFirst && isMeantFirst first last state,
            if isFirst then withRange command.place (beginning setting last state) state else state)

/-- The case of the characters that follow: of the next one, and of the others. -/
structure CaseState where
  next : CaseChange
  others : CaseChange

/-- A character in the case that a change asks for. -/
def inCase (change : CaseChange) (c : Char) : Char :=
  match change with
  | .upper => c.toUpper
  | .nextUpper => c.toUpper
  | .lower => c.toLower
  | .nextLower => c.toLower
  | .none => c

/-- A text in the case that is asked for, and the case of what follows. -/
def cased (state : CaseState) : Text → Text × CaseState
  | [] => ([], state)
  | c :: rest =>
      (inCase (if state.next = .none then state.others else state.next) c :: rest.map (inCase state.others),
        { state with next := .none })

/-- The text that replaces a part. -/
def replacementFor (found : Occurrence) : CaseState → List Replacement → Text
  | _, [] => []
  | state, .case change :: parts =>
      let state := match change with
        | .nextUpper => { state with next := change }
        | .nextLower => { state with next := change }
        | change => ⟨.none, change⟩
      replacementFor found state parts
  | state, .char c :: parts =>
      let (text, state) := cased state [c]
      text ++ replacementFor found state parts
  | state, .group number :: parts =>
      let (text, state) := cased state (if number = 0 then found.part else (found.groups.lookup number).getD [])
      text ++ replacementFor found state parts

/-- A text in which parts are replaced, and whether any has been replaced. `passed` is what stands before the text, the
last character first, `isBehind` tells whether that ends in a part that has been found, and `number` is the number of
the next part. A part without characters right behind another one does not count. `fuel` bounds the steps. -/
def replaced (setting : EditSetting) (expression : EditExpression) (how : Substitution) :
    (fuel : Nat) → (passed : Text) → (isBehind : Bool) → (number : Nat) → Text → Text × Bool
  | 0, _, _, _, text => (text, false)
  | fuel + 1, passed, isBehind, number, text =>
      match search setting expression passed text with
      | none => (text, false)
      | some found =>
          let isVoid := found.part = [] && found.before = [] && isBehind
          let isWanted := !isVoid && (number = how.first || (how.all && how.first < number))
          let part := if isWanted then replacementFor found ⟨.none, .none⟩ how.parts else found.part
          let front := found.before ++ part
          if isWanted && !how.all then (front ++ found.behind, true)
          else
            let passed := found.part.reverse ++ (found.before.reverse ++ passed)
            let number := if isVoid then number else number + 1
            match found.part, found.behind with
            | [], [] => (front, isWanted)
            | [], c :: behind =>
                let (rest, others) := replaced setting expression how fuel (c :: passed) false number behind
                (front ++ c :: rest, isWanted || others)
            | _, behind =>
                let (rest, others) := replaced setting expression how fuel passed true number behind
                (front ++ rest, isWanted || others)

/-- How a character is shown that might not be seen. -/
def shownChar (c : Char) : Text :=
  match [('\\', '\\'), ('\x07', 'a'), ('\x08', 'b'), ('\x0c', 'f'), ('\n', 'n'), ('\r', 'r'), ('\t', 't'),
      ('\x0b', 'v')].lookup c with
  | some letter => ['\\', letter]
  | none =>
      if 32 ≤ c.toNat ∧ c.toNat < 127 then [c]
      else
        let digit (value : Nat) : Char := Char.ofNat ('0'.toNat + value % 8)
        ['\\', digit (c.toNat / 64), digit (c.toNat / 8), digit c.toNat]

/-- Signs in lines that are not wider than is told, each with a mark at its end. -/
def wrapped (ending : Char) (width : Nat) : (column : Nat) → List Text → Text
  | _, [] => ['$']
  | column, sign :: signs =>
      if 0 < width ∧ width < column + sign.length + 1 then
        '\\' :: ending :: sign ++ wrapped ending width sign.length signs
      else sign ++ wrapped ending width (column + sign.length) signs

/-- A line from the file that a command reads line by line, with its end, and what is left of the file. -/
def cutLine (ending : Char) (text : Text) : Text × Text :=
  let line := text.takeWhile (· ≠ ending)
  (text.take (line.length + 1), text.drop (line.length + 1))

/-- The text that is edited up to the end of its first line, and whether it has several. -/
def firstLine (setting : EditSetting) (line : EditSpace) : EditSpace × Bool :=
  if line.text.contains setting.ending then (⟨line.text.takeWhile (· ≠ setting.ending), true⟩, true)
  else (line, false)

/-- The name of the input where commands read it as a file. -/
def inputName : Text := "/dev/stdin".toList

/-- A text of a script with the end that lines have. -/
def ended (setting : EditSetting) (text : Text) : Text :=
  if text.getLast? = some '\n' then text.dropLast ++ [setting.ending] else text

/-- Where commands go on, or how they come to their end. -/
inductive Step where
  | goesOn (commands : List EditCommand) (state : EditState)
  | ends (ending : CycleEnd) (state : EditState)

/-- Exchanges what is held and what is edited. -/
def hold (setting : EditSetting) (action : HoldAction) (state : EditState) : EditState :=
  let joined (first second : EditSpace) : EditSpace :=
    { second with text := first.text ++ setting.ending :: second.text }
  match action with
  | .keep => { state with held := state.line }
  | .keepMore => { state with held := joined state.held state.line }
  | .recall => { state with line := state.held }
  | .recallMore => { state with line := joined state.line state.held }
  | .exchange => { state with line := state.held, held := state.line }

/-- Replaces parts of the text that is edited. -/
def substitute (setting : EditSetting) (how : Substitution) (state : EditState) : EditState :=
  match state.meant? how.expression with
  | none => { state with fault := some noExpression }
  | some expression =>
      let text := state.line.text
      let (text, hasReplaced) := replaced setting expression how (2 * text.length + 2) [] false 1 text
      let fault := EditScript.missingGroup? how.parts expression
      let state := { state with last := some expression, fault }
      if !hasReplaced || fault.isSome then state
      else
        let state := { state.withText text with hasReplaced := true }
        let state := if how.prints then state.print setting none state.line else state
        match how.file with
        | some file => state.print setting (some file) state.line
        | none => state

/-- Whether a range goes on behind the line that is edited. -/
def isWithin (command : EditCommand) (state : EditState) : Bool :=
  match state.ranges.lookup command.place with
  | some (.upTo _ _) => true
  | some .upToMatch => true
  | _ => false

/-- Reads the next line for a command. Where there is none, the line is the last one. -/
def goToNext (setting : EditSetting) (appends : Bool) (rest : List EditCommand) (state : EditState) : Step :=
  if state.coming = [] then .ends (if setting.waits then .stuck else .over true) state
  else
    let state := if appends then state else state.printUsually setting
    match state.next? setting appends with
    | some state => .goesOn rest state
    | none => .ends (.over true) state

/-- Does what a command asks for, before others of the script. -/
def act (setting : EditSetting) (script : List EditCommand) (command : EditCommand) (rest : List EditCommand)
    (state : EditState) : Step :=
  let jump (label : Text) : Step :=
    .goesOn (if label = [] then [] else (EditScript.fromMark? label script).getD []) state
  match command.action with
  | .opening => .goesOn rest state
  | .closing => .goesOn rest state
  | .mark _ => .goesOn rest state
  | .nothing => .goesOn rest state
  | .jump .always label => jump label
  | .jump .ifReplaced label =>
      if state.hasReplaced then
        match jump label with
        | .goesOn commands state => .goesOn commands { state with hasReplaced := false }
        | ends => ends
      else .goesOn rest state
  | .jump .unlessReplaced label =>
      if state.hasReplaced then .goesOn rest { state with hasReplaced := false } else jump label
  | .replace how => .goesOn rest (substitute setting how state)
  | .exchange pairs => .goesOn rest (state.withText (state.line.text.map fun c => (pairs.lookup c).getD c))
  | .delete => .ends (.over false) state
  | .deleteFirst =>
      if (firstLine setting state.line).2 then
        .ends .again (state.withText ((state.line.text.dropWhile (· ≠ setting.ending)).drop 1))
      else .ends (.over false) state
  | .print => .goesOn rest (state.print setting none state.line)
  | .printFirst => .goesOn rest (state.print setting none (firstLine setting state.line).1)
  | .list width =>
      let signs := state.line.text.map shownChar
      .goesOn rest (state.print setting none ⟨wrapped setting.ending (width.getD setting.width) 0 signs, true⟩)
  | .number => .goesOn rest (state.print setting none ⟨Text.decimal state.number, true⟩)
  | .nameFile => .goesOn rest (state.print setting none ⟨state.file, true⟩)
  | .next => goToNext setting false rest state
  | .appendNext => goToNext setting true rest state
  | .hold action => .goesOn rest (hold setting action state)
  | .clear => .goesOn rest (state.withText [])
  | .text .before text => .goesOn rest (state.say setting none (ended setting text))
  | .text .behind text => .goesOn rest { state with behind := state.behind ++ [text] }
  | .text .instead text =>
      .ends (.over false) (if isWithin command state then state else state.say setting none (ended setting text))
  | .readFile name =>
      let text := (state.sources.lookup name).getD []
      let sources := if name = inputName then state.sources.filter (·.1 ≠ name) else state.sources
      .goesOn rest { state with behind := state.behind ++ [text], sources }
  | .readLine name =>
      let (line, left) := cutLine setting.ending ((state.remains.lookup name).getD [])
      let remains := (name, left) :: state.remains.filter (·.1 ≠ name)
      .goesOn rest (if line = [] then state else { state with behind := state.behind ++ [line], remains })
  | .write name onlyFirst =>
      let line := if onlyFirst then (firstLine setting state.line).1 else state.line
      .goesOn rest (state.print setting (some name) line)
  | .quit prints status => .ends (.left prints status) state

/-- Whether it depends on what may still come whether a command is meant for a line. -/
def asksForMore (setting : EditSetting) (command : EditCommand) (state : EditState) : Bool :=
  setting.waits && state.coming = [] && (command.first = some .final || command.last = some .final)

/-- Carries out commands one after the other. `fuel` bounds the steps. -/
def runFrom (setting : EditSetting) (script : List EditCommand) : (fuel : Nat) → List EditCommand → EditState →
    CycleEnd × EditState
  | 0, _, state => (.stuck, state)
  | _, [], state => (.over true, state)
  | fuel + 1, command :: rest, state =>
      if asksForMore setting command state then (.stuck, state)
      else
        let (isMeant, state) := isMeant setting command state
        if state.fault.isSome then (.left false 1, state)
        else if isMeant = command.negated then
          runFrom setting script fuel
            (if command.action = .opening then EditScript.behindBlock 0 rest else rest) state
        else
          match act setting script command rest state with
          | .goesOn commands state =>
              if state.fault.isSome then (.left false 1, state) else runFrom setting script fuel commands state
          | .ends ending state => (ending, state)

/-- How many commands may be carried out for one line, if it is not too long. -/
def patience (state : EditState) : Nat :=
  2000 + 20 * (state.coming.length + state.line.text.length)

/-- Edits lines up to the last one. `isAgain` tells that no line is read at first, and `fuel` bounds how often the
commands begin. -/
def editLines (setting : EditSetting) (script : List EditCommand) : (fuel : Nat) → (isAgain : Bool) → EditState →
    CycleEnd × EditState
  | 0, _, state => (.stuck, state)
  | fuel + 1, isAgain, state =>
      match if isAgain then some state else state.next? setting false with
      | none => (.over false, state.sayBehind setting)
      | some state =>
          match runFrom setting script (patience state) script state with
          | (.over prints, state) =>
              editLines setting script fuel false (if prints then state.printUsually setting else state)
          | (.again, state) => editLines setting script fuel true state
          | (.left prints status, state) =>
              (.left prints status, if prints then (state.printUsually setting).closed setting else state)
          | (.stuck, state) => (.stuck, state)

/-- Edits lines from the first to the last one. -/
def edit (setting : EditSetting) (script : List EditCommand) (state : EditState) : CycleEnd × EditState :=
  editLines setting script (2 * state.coming.length + 2000) false state

end Editing

end SecureShell.Rehearsal.Shell
