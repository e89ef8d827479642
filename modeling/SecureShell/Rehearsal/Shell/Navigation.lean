/-
Module: SecureShell.Rehearsal.Shell.Navigation
Purpose: The directory of a shell. It is followed in writing, so that the way back leads through the links
  by which it has been entered, unless the way is to be walked as the links lead.
Main exports: directoryInWriting, changeDirectory, tellDirectory
-/
import SecureShell.Rehearsal.Shell.Names
import SecureShell.Rehearsal.Shell.OwnOptions
import SecureShell.Rehearsal.Shell.Traps

namespace SecureShell.Rehearsal.Shell

open FileSystem (Tree)

/-- A directory in writing after one more step. -/
def stepInWriting (kept : List Text) (part : Text) : List Text :=
  if part = [] ∨ part = ['.'] then kept
  else if part = ['.', '.'] then kept.dropLast
  else kept ++ [part]

/-- What a directory in writing begins with: a slash, or two if there are exactly two. -/
def rootInWriting : Text → Text
  | '/' :: '/' :: '/' :: _ => ['/']
  | '/' :: '/' :: _ => ['/', '/']
  | _ => ['/']

/-- The directory that a name stands for in writing, seen from another one. -/
def directoryInWriting (here target : Text) : Text :=
  let isAbsolute := target.head? = some '/'
  let start := if isAbsolute then [] else Text.segments '/' here
  let steps := (start ++ Text.segments '/' target).foldl stepInWriting []
  rootInWriting (if isAbsolute then target else here) ++ List.intercalate ['/'] steps

/-- Sets a parameter that other programs see. -/
def exportValue (name value : Text) : Run Unit := do
  assign name value
  modify fun shell => shell.bind name (some ⟨some value, true, false⟩)

/-- Whether a name leads to a directory. -/
def ShellState.isDirectory (shell : ShellState) (name : Text) : Bool :=
  shell.node? name = some .directory

/-- Enters a directory that is meant by a name, and tells where it is if asked. -/
def enterDirectory (physical told : Bool) (name target : Text) : Run Unit := do
  let shell ← get
  let written := if physical then target else directoryInWriting shell.written target
  match shell.resolve written with
  | .error _ => mistake (.unentered name)
  | .ok place =>
      if shell.tree.node? place ≠ some .directory then mistake (.unentered name)
      else
        let now := if physical then (Tree.Place.path place).text else written
        set { shell with place, written := now }
        exportValue "OLDPWD".toList shell.written
        exportValue "PWD".toList now
        if told then write (now ++ ['\n'])
        finish 0

/-- Whether a name is searched for in the directories that a parameter lists: it does not begin at the root
or at a directory that is near. -/
def isSearched (target : Text) : Bool :=
  match Text.segments '/' target with
  | [] => true
  | [first] => !([['.'], ['.', '.']].contains first)
  | first :: _ => !(ShellState.nearNames.contains first)

/-- Changes the directory, in writing or as links lead. A name may be meant in one of the directories that a
parameter lists; the name of a directory that has been found in this way is told. -/
def changeDirectory (arguments : List Text) : Run Unit := do
  let shell ← get
  let options ← ownOptions ['L', 'P'] [] arguments
  let physical := options.lastOf? ['L', 'P'] = some 'P'
  let operands := options.operands
  let goesBack := operands.head? = some ['-']
  let name := match operands with
    | [] => (shell.value? "HOME").getD []
    | name :: _ => if goesBack then (shell.value? "OLDPWD").getD [] else name
  let target := if name = [] then ['.'] else name
  let above := match shell.value? "CDPATH" with
    | some list => if isSearched name then Text.segments ':' list else []
    | none => []
  let ways := above.map fun directory =>
    (decide (directory ≠ []), if directory = [] then target else directory ++ '/' :: target)
  match ways.find? fun way => shell.isDirectory way.2 with
  | some (told, way) => enterDirectory physical (told || goesBack) target way
  | none => enterDirectory physical goesBack target target

/-- Writes the name of the directory. -/
def tellDirectory (arguments : List Text) : Run Unit := do
  let options ← ownOptions ['L', 'P'] [] arguments
  let shell ← get
  writeLine (if options.lastOf? ['L', 'P'] = some 'P' then shell.directory.text else shell.written)

end SecureShell.Rehearsal.Shell
