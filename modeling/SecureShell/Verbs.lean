/-
Module: SecureShell.Verbs
Purpose: The verbs of commands and key paths: a percent sign with h, p or r stands for the name, the port
  or the user of the destination. The three verbs are put in one after the other, each over the whole
  text that the one before has left.
Main exports: Verbs.replace, Verbs.expand
-/
import SecureShell.Text.Decimal

namespace SecureShell.Verbs

/-- Puts a value in the place of every occurrence of one verb. -/
def replace (verb : Char) (value : Text) : Text → Text
  | [] => []
  | [c] => [c]
  | first :: second :: rest =>
      if first = '%' ∧ second = verb then value ++ replace verb value rest
      else first :: replace verb value (second :: rest)

/-- Puts in the destination's name, then its port, then its user. -/
def expand (text user port hostname : Text) : Text :=
  replace 'r' user (replace 'p' port (replace 'h' hostname text))

example : expand "ssh -W %h:%p -l %r %n".toList "al".toList "22".toList "h".toList
    = "ssh -W h:22 -l al %n".toList := by decide

end SecureShell.Verbs
