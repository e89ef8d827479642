/-
Module: SecureShell.Rehearsal.Shell.OwnOptions
Purpose: The options of commands that are part of the shell. They have letters only, and stand in front of all
  operands; what is wrong with them is a mistake.
Main exports: ownOptions
-/
import SecureShell.Rehearsal.Shell.Arguments
import SecureShell.Rehearsal.Shell.State

namespace SecureShell.Rehearsal.Shell

/-- The complaint about what is wrong with options. -/
def ArgumentFault.complaint : ArgumentFault → Complaint
  | .unknownLetter letter => .illegalOption ['-', letter]
  | .letterWithoutValue letter => .words ("No arg for -".toList ++ letter :: " option".toList)
  | _ => .illegalOption ['-', '-']

/-- The options and operands of a command that knows some letters without a value and some with one. -/
def ownOptions (plain valued : Text) (arguments : List Text) : Run Arguments :=
  let table : OptionTable := { plain, valued, everywhere := false }
  match table.readFrom (arguments.length + 1) arguments with
  | .ok found => pure found
  | .error fault => mistake fault.complaint

end SecureShell.Rehearsal.Shell
