/-
Module: SecureShell.Path.Expansion
Purpose: A path as a user writes it becomes a path of the machine: a leading tilde is the home directory,
  a relative path is read from a base directory, and the result is cleaned by its text alone. Cleaning
  drops single dots and lets a double dot take back the step before it.
Main exports: Path.cleanStep, Path.clean, Path.atHome, Path.expand
-/
import SecureShell.Path.Basic

namespace SecureShell.Path

/-- One step of cleaning, on the steps kept so far with the latest first. A double dot takes back the
latest step, whatever it is; with nothing to take back, or only the root, it is kept. -/
def cleanStep (kept : List Component) : Component → List Component
  | .current => kept
  | .up =>
      match kept with
      | [] => [.up]
      | [.root] => [.up, .root]
      | _ :: earlier => earlier
  | step => step :: kept

/-- A path with its dots and double dots carried out in writing. -/
def clean (path : Path) : Path :=
  ofComponents (path.components.foldl cleanStep []).reverse

/-- What stands behind a tilde is read from the home directory. -/
def atHome (home : Path) (written : Text) : Path :=
  home.join (written.dropWhile (· = '/'))

/-- The cleaned path that a written path stands for. -/
def expand (written : Text) (base home : Path) : Path :=
  match written with
  | '/' :: rest => clean ⟨'/' :: rest⟩
  | '~' :: rest => clean (atHome home rest)
  | other => clean (base.join other)

example : expand "../keys/id".toList ⟨"/etc/ssh".toList⟩ ⟨"/home/u".toList⟩
    = ⟨"/etc/keys/id".toList⟩ := by decide
example : expand "~/.ssh/./id".toList ⟨"/etc".toList⟩ ⟨"/home/u".toList⟩
    = ⟨"/home/u/.ssh/id".toList⟩ := by decide

end SecureShell.Path
