/-
Module: SecureShell.Rehearsal.Shell.Timing
Purpose: Spans of time in writing, the program that waits, and limits to the time for which others run.
Main exports: span?, runSleep, withinTime
-/
import SecureShell.Rehearsal.Shell.Relaying

namespace SecureShell.Rehearsal.Shell

/-- A time that nobody waits for. -/
def endless : Milliseconds := 1000000000000000

/-- The milliseconds that an amount of time has, written as a decimal with an optional unit. -/
def span? (text : Text) : Option Milliseconds :=
  let whole := text.takeWhile Char.isDigit
  let rest := text.dropWhile Char.isDigit
  let (part, unit) := match rest with
    | '.' :: rest => (rest.takeWhile Char.isDigit, rest.dropWhile Char.isDigit)
    | rest => ([], rest)
  let factor? : Option Nat :=
    match unit with
    | [] => some 1
    | ['s'] => some 1
    | ['m'] => some 60
    | ['h'] => some 3600
    | ['d'] => some 86400
    | _ => none
  if text = "inf".toList ∨ text = "infinity".toList then some endless
  else if whole = [] ∧ part = [] then none
  else factor?.map fun factor =>
    let digits := (part.take 6) ++ List.replicate (6 - part.length) '0'
    (Nat.ofDigitChars 10 whole 0 * 1000000 + Nat.ofDigitChars 10 digits 0) * factor / 1000

/-- The options of a program that has none. -/
def withoutOptions : OptionTable := { plain := [], valued := [] }

/-- A refusal of a span of time. -/
def badSpan (text : Text) : Misuse :=
  ⟨"invalid time interval ".toList ++ singleQuoted text, true⟩

/-- The program that waits. -/
def runSleep (called : Text) (arguments : List Text) : Run Unit :=
  understood called 1 (withoutOptions.read arguments) fun arguments => do
    match arguments.operands.find? fun text => (span? text).isNone with
    | some text => refuse called 1 (badSpan text)
    | none =>
        if arguments.operands = [] then refuse called 1 .missingOperand
        else
          pause ((arguments.operands.filterMap span?).foldl (· + ·) 0)
          finish 0

/-- Runs a program for a span of time at most. It is told to end with a status if it has to be. -/
def withinTime (span : Milliseconds) (status : Nat) (action : Run Unit) : Run Unit := do
  let shell ← get
  let deadline := shell.slept + span
  if span = 0 ∨ shell.limit ≤ deadline then action
  else
    set { shell with limit := deadline, held := shell.held || shell.speaksToCaller }
    let stop ← attempt action
    modify fun later => { later with limit := shell.limit, held := shell.held }
    match stop with
    | none => pure ()
    | some .stalled => modify fun later => { later with slept := deadline, status }
    | some stop => throw stop

end SecureShell.Rehearsal.Shell
