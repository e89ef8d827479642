/-
Module: SecureShell.Rehearsal.Shell.TextPrograms
Purpose: The programs that make one text of others, by their names.
Main exports: textPrograms, textProgram?
-/
import SecureShell.Rehearsal.Shell.Counts
import SecureShell.Rehearsal.Shell.Excerpt
import SecureShell.Rehearsal.Shell.Exchange
import SecureShell.Rehearsal.Shell.Ordering

namespace SecureShell.Rehearsal.Shell.Filters

/-- The options of a program that knows none. -/
def noOptions : OptionTable := { plain := [], valued := [] }

/-- The program that writes every line backwards. -/
def rev (arguments : List Text) : Except Misuse Filter := do
  let arguments ← noOptions.read arguments
  let wording : Wording := fun name cause => "rev: cannot open ".toList ++ name ++ ": ".toList ++ cause.reason
  pure (Filter.ofEach wording (onLines List.reverse) arguments.operands)

/-- The program that writes the lines in the opposite order. -/
def tac (arguments : List Text) : Except Misuse Filter := do
  let arguments ← noOptions.read arguments
  let wording : Wording := fun name cause =>
    if cause = .isDirectory then
      "tac: ".toList ++ name ++ ": read error: ".toList ++ SystemError.invalidArgument.reason
    else "tac: failed to open ".toList ++ singleQuoted name ++ " for reading: ".toList ++ cause.reason
  pure (Filter.ofEach wording (fun text => (fullLines text).reverse.flatten) arguments.operands)

/-- The programs that make one text of others. -/
def textPrograms : List (String × (List Text → Except Misuse Filter)) :=
  [("head", head), ("tail", tail), ("tr", tr), ("cut", cut), ("wc", wc), ("sort", sort), ("uniq", uniq),
    ("rev", rev), ("tac", tac)]

/-- The program of a name. -/
def textProgram? (name : Text) : Option (List Text → Except Misuse Filter) :=
  (textPrograms.find? fun entry => entry.1.toList = name).map (·.2)

/-- The names of these programs. -/
def names : List Text :=
  textPrograms.map fun entry => entry.1.toList

end SecureShell.Rehearsal.Shell.Filters
