/-
Module: SecureShell.Pattern.HostPattern
Purpose: The patterns of a host line. An exclamation mark in front negates a pattern. A list of patterns
  selects a host when some positive pattern matches it and no negated one does.
Main exports: HostPattern, HostPattern.ofText, HostPattern.selects
-/
import SecureShell.Pattern.Glob

namespace SecureShell

/-- One pattern of a host line. -/
structure HostPattern where
  glob : Text
  negated : Bool
deriving DecidableEq, Repr

namespace HostPattern

/-- Reads a pattern with its exclamation mark. -/
def ofText : Text → HostPattern
  | '!' :: rest => ⟨rest, true⟩
  | written => ⟨written, false⟩

/-- A pattern is negated exactly if it is written with an exclamation mark in front, which is no part of what
it matches. -/
theorem ofText_eq (written : Text) :
    ofText written =
      if written.head? = some '!' then ⟨written.tail, true⟩ else ⟨written, false⟩ := by
  unfold ofText
  split
  · rfl
  · next plain =>
    rw [if_neg]
    intro marked
    obtain ⟨rest, rfl⟩ := List.head?_eq_some_iff.mp marked
    exact plain rest rfl

/-- The pattern that stands for every host. -/
def any : HostPattern := ⟨['*'], false⟩

/-- Whether the pattern, its negation aside, matches a host. -/
def «matches» (pattern : HostPattern) (host : Text) : Bool :=
  Glob.matches pattern.glob host

/-- Goes through the patterns in order. A negated match settles the matter; `found` tells whether a
positive pattern has matched already. -/
def scan (host : Text) (found : Bool) : List HostPattern → Bool
  | [] => found
  | pattern :: rest =>
      if pattern.matches host then
        if pattern.negated then false else scan host true rest
      else scan host found rest

/-- Whether a list of patterns selects a host. -/
def selects (patterns : List HostPattern) (host : Text) : Bool :=
  scan host false patterns

end HostPattern

end SecureShell
