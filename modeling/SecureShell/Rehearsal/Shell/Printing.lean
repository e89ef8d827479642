/-
Module: SecureShell.Rehearsal.Shell.Printing
Purpose: The meaning of backslashes in what is printed. They introduce characters by a letter or by a number of
  base eight, and for some commands by one of base sixteen.
Main exports: escape, argumentEscape, resolve, resolveAll, spaced, echoed
-/
import SecureShell.Text.Floating

namespace SecureShell.Rehearsal.Shell.Printing

/-- The character that a letter behind a backslash stands for. -/
def letterEscape? (c : Char) : Option Char :=
  if c = 'a' then some '\x07'
  else if c = 'b' then some '\x08'
  else if c = 'f' then some '\x0c'
  else if c = 'n' then some '\n'
  else if c = 'r' then some '\r'
  else if c = 't' then some '\t'
  else if c = 'v' then some '\x0b'
  else if c = '\\' then some '\\'
  else none

/-- The value of at most `most` digits of base eight in front, and the text behind them. -/
def octal (most : Nat) (value : Nat) : Text → Nat × Text
  | [] => (value, [])
  | c :: rest =>
      match most with
      | 0 => (value, c :: rest)
      | fewer + 1 =>
          if '0' ≤ c ∧ c ≤ '7' then octal fewer (value * 8 + (c.toNat - '0'.toNat)) rest
          else (value, c :: rest)

/-- The character of a byte. -/
def byteChar (value : Nat) : Char :=
  Char.ofNat (value % 256)

/-- The characters for a backslash in front of a text, and the text behind what belongs to it. A backslash
without a meaning stands for itself. -/
def escape (text : Text) : Text × Text :=
  match text with
  | [] => (['\\'], [])
  | c :: rest =>
      match if c = 'e' then some '\x1b' else letterEscape? c with
      | some meant => ([meant], rest)
      | none =>
          if '0' ≤ c ∧ c ≤ '7' then
            let (value, behind) := octal 3 0 (c :: rest)
            ([byteChar value], behind)
          else (['\\'], c :: rest)

/-- The character for one or two digits of base sixteen in front of a text, and the text behind them. -/
def hexEscape? (text : Text) : Option (Char × Text) :=
  let digits := (text.take 2).takeWhile Floating.isHexDigit
  if digits = [] then none else some (byteChar (Floating.hexValue digits), text.drop digits.length)

/-- The characters for a backslash in front of an argument, and the text behind what belongs to it: behind a zero
up to three more digits count. Some commands know characters by digits of base sixteen, too. -/
def argumentEscape (knowsHex : Bool) (text : Text) : Text × Text :=
  match text with
  | '0' :: digits =>
      let (value, behind) := octal 3 0 digits
      ([byteChar value], behind)
  | 'x' :: digits =>
      match if knowsHex then hexEscape? digits else none with
      | some (c, behind) => ([c], behind)
      | none => (['\\'], text)
  | text => escape text

/-- A text with its backslashes resolved, and whether printing goes on behind it, which a `c` ends. `fuel` bounds
the steps. -/
def resolved (knowsHex : Bool) : (fuel : Nat) → Text → Text × Bool
  | 0, _ => ([], true)
  | _, [] => ([], true)
  | fuel + 1, '\\' :: rest =>
      if rest.head? = some 'c' then ([], false)
      else
        let (front, behind) := argumentEscape knowsHex rest
        let (text, goesOn) := resolved knowsHex fuel behind
        (front ++ text, goesOn)
  | fuel + 1, c :: rest =>
      let (text, goesOn) := resolved knowsHex fuel rest
      (c :: text, goesOn)

/-- A text with its backslashes resolved, and whether printing goes on behind it. -/
def resolve (text : Text) : Text × Bool :=
  resolved false (text.length + 1) text

/-- A text with all kinds of backslashes resolved, and whether printing goes on behind it. -/
def resolveAll (text : Text) : Text × Bool :=
  resolved true (text.length + 1) text

/-- Arguments with a blank between them and something at the end, their backslashes resolved. -/
def spaced (resolve : Text → Text × Bool) (ending : Text) : List Text → Text
  | [] => ending
  | first :: rest =>
      let (text, goesOn) := resolve first
      let behind := if rest = [] then ending else ' ' :: spaced resolve ending rest
      text ++ if goesOn then behind else []

/-- What the echo command prints. -/
def echoed (arguments : List Text) : Text :=
  match arguments with
  | ['-', 'n'] :: rest => spaced resolve [] rest
  | arguments => spaced resolve ['\n'] arguments

end SecureShell.Rehearsal.Shell.Printing
