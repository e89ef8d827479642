/-
Module: SecureShell.Rehearsal.Shell.Fields
Purpose: A word that has been filled in becomes fields. What was filled in without quotes is split at
  separators: blank separators count as one and vanish at the ends, every other separator ends a field,
  even an empty one. A word without characters and without quotes is no field.
Main exports: Piece, Field, splitFields, wholeField
-/
import SecureShell.Rehearsal.Shell.Pattern

namespace SecureShell.Rehearsal.Shell

/-- A part of a word that has been filled in: a character, which may be split at or not; the mark that
quotes leave, so that the field is one; the gap between arguments that are split, and the end of one that
is kept; and the seam at the beginning of a text that is filled in, which is of such arguments or not. -/
inductive Piece where
  | char (c : Char) (quoted : Bool) (splits : Bool)
  | mark
  | gap
  | cut
  | seam (ofArguments : Bool)
deriving DecidableEq, Repr

/-- A field, before names of files are looked for. -/
abbrev Field := List Cell

/-- The separators that count as one when they stand together. -/
def isBlankSeparator (c : Char) : Bool :=
  c = ' ' || c = '\t' || c = '\n'

/-- A field that has begun: its characters, the last one first, or nothing so far. -/
abbrev Begun := Option (List Cell)

/-- The field that has begun, with one more character. -/
def Begun.add (begun : Begun) (cell : Cell) : Begun :=
  some (cell :: begun.getD [])

/-- How far pieces have been split. `inBlanks` tells whether a blank separator has ended the field before, so
that further separators up to one that is not blank count as one with it; `keepsAll` tells whether no
separators count as one, because arguments stand in front that are kept; `isLast` tells whether such
arguments have been filled in last. -/
structure Splitting where
  begun : Begun
  inBlanks : Bool
  keepsAll : Bool
  isLast : Bool
deriving Repr

/-- Splits at a separator: gives the field that it ends, if it ends one. -/
def Splitting.separate (state : Splitting) (isBlank : Bool) : List Field × Splitting :=
  if state.inBlanks then ([], { state with inBlanks := isBlank })
  else if isBlank && !state.keepsAll && state.begun.isNone then ([], state)
  else
    ([(state.begun.getD []).reverse],
      { state with begun := none, inBlanks := isBlank && !state.keepsAll })

/-- Splits pieces into fields at the separators. -/
def splitFrom (separators : Text) : Splitting → List Piece → List Field
  | state, [] => (state.begun.map List.reverse).toList
  | state, .mark :: rest =>
      splitFrom separators { state with begun := some (state.begun.getD []), inBlanks := false } rest
  | state, .cut :: rest =>
      (state.begun.getD []).reverse :: splitFrom separators { state with begun := none } rest
  | state, .gap :: rest =>
      let (fields, state) := state.separate true
      fields ++ splitFrom separators state rest
  | state, .seam ofArguments :: rest =>
      splitFrom separators ⟨state.begun, false, state.isLast, ofArguments⟩ rest
  | state, .char c quoted splits :: rest =>
      if splits && separators.contains c then
        let (fields, state) := state.separate (isBlankSeparator c)
        fields ++ splitFrom separators state rest
      else splitFrom separators { state with begun := state.begun.add ⟨c, quoted⟩, inBlanks := false } rest

/-- The fields of a word. -/
def splitFields (separators : Text) (pieces : List Piece) : List Field :=
  splitFrom separators ⟨none, false, false, false⟩ pieces

/-- The characters of a word that is not split; arguments have a joint between them. -/
def wholeField (joint : Text) (pieces : List Piece) : Field :=
  pieces.flatMap fun piece => match piece with
    | .char c quoted _ => [⟨c, quoted⟩]
    | .mark => []
    | .seam _ => []
    | .gap => joint.map (⟨·, true⟩)
    | .cut => joint.map (⟨·, true⟩)

/-- Pieces for a text that is filled in. What is split there does not reach beyond it. -/
def filledIn (text : Text) (quoted : Bool) : List Piece :=
  if quoted then text.map fun c => .char c true false
  else .seam false :: text.map (fun c => .char c false true) ++ [.seam false]

/-- Pieces for arguments that are filled in, each as a field of its own if they are quoted. -/
def argumentsIn (arguments : List Text) (quoted : Bool) : List Piece :=
  if arguments = [] then []
  else if quoted then
    .seam true :: List.intercalate [.cut] (arguments.map fun argument => .mark :: filledIn argument true)
  else
    let parts := arguments.map fun argument => argument.map fun c => Piece.char c false true
    .seam false :: List.intercalate [.gap] parts ++ [.seam false]

/-- The usual separators. -/
def usualSeparators : Text := [' ', '\t', '\n']

example : splitFields [' ', ':'] (filledIn " a :b::".toList false)
    = [[⟨'a', false⟩], [⟨'b', false⟩], []] := by decide
example : splitFields [' ', ':'] (filledIn "a ".toList false ++ filledIn ":b".toList false)
    = [[⟨'a', false⟩], [], [⟨'b', false⟩]] := by decide

end SecureShell.Rehearsal.Shell
