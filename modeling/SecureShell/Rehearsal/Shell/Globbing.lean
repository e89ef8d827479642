/-
Module: SecureShell.Rehearsal.Shell.Globbing
Purpose: A field with a pattern in it becomes the names of the files that the pattern stands for, in order.
  A pattern stands for names within one directory; names that begin with a dot have to be asked for by a
  dot. A field whose pattern stands for no file stays as it is.
Main exports: fileNames
-/
import SecureShell.Rehearsal.Shell.State

namespace SecureShell.Rehearsal.Shell

open FileSystem (Tree Place)

/-- The parts of a field between its slashes. -/
def Field.parts : Field → List Field
  | [] => [[]]
  | cell :: rest =>
      if cell.char = '/' then [] :: parts rest
      else
        match parts rest with
        | [] => [[cell]]
        | first :: others => (cell :: first) :: others

/-- The names in the directory at a place. -/
def childNames (tree : Tree) (place : Place) : List Text :=
  tree.entries.filterMap fun (other, _) =>
    if other.dropLast = place then other.getLast? else none

/-- Texts in the order of their characters. -/
def inOrder (names : List Text) : List Text :=
  names.mergeSort fun left right => !decide (right < left)

/-- The names in a directory that a pattern stands for. -/
def namesIn (shell : ShellState) (directory : Text) (part : Field) : List Text :=
  let place := shell.resolve (if directory = [] then ['.'] else directory)
  match place with
  | .error _ => []
  | .ok place =>
      if shell.tree.node? place ≠ some .directory then []
      else
        let names := [['.'], ['.', '.']] ++ childNames shell.tree place
        let dotted := part.head?.any (·.char = '.')
        names.filter fun name =>
          (dotted || name.head? ≠ some '.') && (Pattern.ofCells part).matches name

/-- The files that the parts of a field stand for, behind a front that has been settled. -/
def filesFrom (shell : ShellState) (front : Text) : List Field → List Text
  | [] => []
  | [part] =>
      if (Pattern.ofCells part).isOpen then (namesIn shell front part).map (front ++ ·)
      else
        let name := front ++ Cell.text part
        if shell.isTaken name then [name] else []
  | part :: next :: rest =>
      if (Pattern.ofCells part).isOpen then
        (namesIn shell front part).flatMap fun name =>
          filesFrom shell (front ++ name ++ ['/']) (next :: rest)
      else filesFrom shell (front ++ Cell.text part ++ ['/']) (next :: rest)

/-- Whether a field may have a pattern in it. -/
def mayBePattern (field : Field) : Bool :=
  field.any fun cell => !cell.quoted && ['*', '?', '['].contains cell.char

/-- The names that a field stands for. -/
def fileNames (shell : ShellState) (field : Field) : List Text :=
  let own := Cell.text field
  if shell.options.keepsPatterns || !mayBePattern field then [own]
  else
    match inOrder (filesFrom shell [] field.parts) with
    | [] => [own]
    | names => names

end SecureShell.Rehearsal.Shell
