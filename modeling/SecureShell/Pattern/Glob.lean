/-
Module: SecureShell.Pattern.Glob
Purpose: Matching a text against a pattern in which an asterisk stands for any run of characters and a
  question mark for exactly one. The pattern is tried character by character; where the attempt fails,
  only the latest asterisk passed so far takes in one more character and the attempt starts again behind
  it. A character of the pattern that equals the character of the text is taken for it first, also when
  it is an asterisk.
Main exports: Glob.Attempt, Glob.attempt, Glob.seek, Glob.matches
-/
import SecureShell.Text.Decimal

namespace SecureShell.Glob

/-- How a straight attempt ends: the text is used up, a character does not fit, or an asterisk is met
with the rest of the pattern behind it and the rest of the text. -/
inductive Attempt where
  | finished (accepted : Bool)
  | mismatch
  | asterisk (pattern text : Text)
deriving DecidableEq, Repr

/-- Compares pattern and text until one of the three ends. When the text is used up, the rest of the
pattern may hold asterisks only. -/
def attempt : (pattern text : Text) → Attempt
  | pattern, [] => .finished (pattern.all (· = '*'))
  | [], _ :: _ => .mismatch
  | p :: pattern, c :: text =>
      if p = '?' ∨ p = c then attempt pattern text
      else if p = '*' then .asterisk pattern (c :: text)
      else .mismatch

/-- The pattern behind an asterisk is shorter than the pattern before it. -/
theorem length_lt_of_attempt {pattern text behind rest : Text}
    (met : attempt pattern text = .asterisk behind rest) : behind.length < pattern.length := by
  induction pattern generalizing text with
  | nil => cases text <;> simp [attempt] at met
  | cons p pattern ih =>
      cases text with
      | nil => simp [attempt] at met
      | cons c text =>
          simp only [attempt] at met
          split at met
          · exact Nat.lt_succ_of_lt (ih met)
          · split at met
            · cases met
              exact Nat.lt_succ_self _
            · simp at met

/-- Looks for the pattern behind the latest asterisk at every later position of the text. -/
def seek (pattern text : Text) : Bool :=
  match met : attempt pattern text with
  | .finished accepted => accepted
  | .asterisk behind rest =>
      have := length_lt_of_attempt met
      seek behind rest
  | .mismatch =>
      match text with
      | [] => false
      | _ :: later => seek pattern later
termination_by (pattern.length, text.length)

/-- Whether the whole text fits the pattern. -/
def «matches» (pattern text : Text) : Bool :=
  match attempt pattern text with
  | .finished accepted => accepted
  | .asterisk behind rest => seek behind rest
  | .mismatch => false

end SecureShell.Glob
