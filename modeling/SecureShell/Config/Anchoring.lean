/-
Module: SecureShell.Config.Anchoring
Purpose: Before a source is read, its include lines are anchored at the home directory: a first target
  that begins with a tilde gets the home directory in the tilde's place, and one that begins with neither
  a tilde nor a slash gets the directory `.ssh` of the home directory in front. Only lines whose keyword
  is followed by blanks are changed. Every line, changed or not, is ended by a line feed.
Main exports: anchorLine, anchorIncludes
-/
import SecureShell.Path.Basic
import SecureShell.Text.Blank

namespace SecureShell

/-- Cuts a line into the part up to the first target and the rest, if its keyword is `include` and blanks
follow the keyword. -/
def includeHead? (line : Text) : Option (Text × Text) :=
  let indent := line.takeWhile Text.isBlank
  let body := line.dropWhile Text.isBlank
  let keyword := body.take 7
  let behind := body.drop 7
  let gap := behind.takeWhile Text.isBlank
  if Text.lower keyword = "include".toList ∧ gap ≠ [] then
    some (indent ++ keyword ++ gap, behind.dropWhile Text.isBlank)
  else none

/-- A line with its first include target anchored at the home directory. -/
def anchorLine (home : Path) (line : Text) : Text :=
  match includeHead? line with
  | none => line
  | some (_, []) => line
  | some (_, '/' :: _) => line
  | some (_, ['~']) => line
  | some (head, '~' :: target) => head ++ home.text ++ target
  | some (head, target) => head ++ home.text ++ "/.ssh/".toList ++ target

/-- A text with all its lines anchored and ended. -/
def anchorIncludes (home : Path) (text : Text) : Text :=
  (Text.lines text).flatMap fun line => anchorLine home line ++ ['\n']

example : anchorIncludes ⟨"/h".toList⟩ "Include ~/a\r\n include b c".toList
    = "Include /h/a\n include /h/.ssh/b c\n".toList := by decide

end SecureShell
