/-
Module: SecureShell.Rehearsal.Shell.Input
Purpose: Lines of the input become the values of parameters: a field for each, and what is left for the
  last one. A backslash protects the next character or joins the next line, unless it is to be kept.
Main exports: cutInputLine, valuesFor, readParameters
-/
import SecureShell.Rehearsal.Shell.OwnOptions
import SecureShell.Rehearsal.Shell.Relaying

namespace SecureShell.Rehearsal.Shell

/-- The pieces of the first line of a text with whether it was ended, and the text behind it. A backslash
protects the next character unless it is to be kept; what is protected is not split, and neither is anything
across it. -/
def cutInputLine (keepsBackslash : Bool) : Text → List Piece × Bool × Text
  | [] => ([], false, [])
  | '\n' :: rest => ([], true, rest)
  | '\x00' :: rest => cutInputLine keepsBackslash rest
  | '\\' :: rest =>
      if keepsBackslash then
        let (pieces, ended, behind) := cutInputLine keepsBackslash rest
        (.char '\\' false true :: pieces, ended, behind)
      else
        match rest with
        | [] => ([], false, [])
        | c :: rest =>
            let (pieces, ended, behind) := cutInputLine keepsBackslash rest
            (if c = '\n' then .seam false :: pieces else .char c true false :: .seam false :: pieces, ended, behind)
  | c :: rest =>
      let (pieces, ended, behind) := cutInputLine keepsBackslash rest
      (.char c false true :: pieces, ended, behind)

/-- How far a line has been split for names: the field that has begun, the last character first; whether a blank
separator has ended the one before; and, where only the last name is left, how much of its field is kept if
nothing but separators comes. -/
structure LineSplitting where
  begun : Text
  inBlanks : Bool
  kept : Option Nat

/-- The fields of a line for so many names. The last name gets all that is left, but for blank separators at the
end, and without the separator behind it if that ends its only field. -/
def fieldsFor (separators : Text) : (names : Nat) → LineSplitting → List Piece → List Text
  | _, state, [] =>
      let field := state.begun.reverse
      [(state.kept.map field.take).getD field]
  | names, state, .char c _ splits :: rest =>
      let added := c :: state.begun
      let isSeparator := splits && separators.contains c
      let isBlank := isSeparator && isBlankSeparator c
      if !splits then fieldsFor separators names { state with begun := added, inBlanks := false } rest
      else if names = 0 then
        if isBlank then
          fieldsFor separators 0 { state with begun := added, kept := state.kept.or (some state.begun.length) } rest
        else
          let kept := if isSeparator && state.inBlanks then state.kept else none
          fieldsFor separators 0 ⟨added, false, kept⟩ rest
      else if state.inBlanks then
        if isSeparator then fieldsFor separators names { state with begun := [], inBlanks := isBlank } rest
        else fieldsFor separators names { state with begun := [c], inBlanks := false } rest
      else if !isSeparator then fieldsFor separators names { state with begun := added } rest
      else if state.begun = [] ∧ isBlank = true then fieldsFor separators names state rest
      else if names = 1 then fieldsFor separators 0 ⟨added, isBlank, some state.begun.length⟩ rest
      else state.begun.reverse :: fieldsFor separators (names - 1) ⟨[], isBlank, none⟩ rest
  | names, state, _ :: rest => fieldsFor separators names { state with inBlanks := false } rest

/-- The values for names: a field for each. What is left over has no name, and names without a field have no
characters. -/
def valuesFor (separators : Text) (names : List Text) (line : List Piece) : List (Text × Text) :=
  let fields := fieldsFor separators names.length ⟨[], false, none⟩ line
  names.zip (fields ++ List.replicate names.length [])

example : valuesFor [':'] [['a'], ['b']] (cutInputLine false "1:2:".toList).1
    = [(['a'], ['1']), (['b'], ['2'])] := by decide
example : valuesFor [':'] [['a'], ['b']] (cutInputLine false "1:2:3:".toList).1
    = [(['a'], ['1']), (['b'], "2:3:".toList)] := by decide

/-- Reads a line of the input into parameters. -/
def readParameters (arguments : List Text) : Run Unit := do
  let options ← ownOptions ['r'] ['p'] arguments
  let keepsBackslash := options.has 'r'
  let names := options.operands
  if names = [] then mistake (.words "arg count".toList)
  let (pieces, ended) ← match ← liveText with
    | some text => do
        let (pieces, ended, behind) := cutInputLine keepsBackslash text
        if !ended then blocked
        leaveInput behind
        pure (pieces, ended)
    | none => do
        let (pieces, ended, behind) := cutInputLine keepsBackslash (← heldText)
        leaveInput behind
        pure (pieces, ended)
  (valuesFor (← get).separators names pieces).forM fun (name, value) =>
    if isName name then assign name value else mistake (.badName name)
  finish (if ended then 0 else 1)

end SecureShell.Rehearsal.Shell
