/-
Module: SecureShell.Rehearsal.Shell.NextOption
Purpose: The options among arguments, read one letter at a time. Letters may stand together in an argument
  behind a dash; the value of an option is what stands behind its letter or the next argument.
Main exports: NextOption, nextOption, readOption
-/
import SecureShell.Rehearsal.Shell.State

namespace SecureShell.Rehearsal.Shell

/-- What becomes of the value of an option: it is set, taken away because of a letter that is known or not,
or left. -/
inductive OptionValue where
  | is (value : Text)
  | missing (isKnown : Bool) (letter : Char)
  | kept
deriving DecidableEq, Repr

/-- An option that has been read: the letter that is reported, its value, whether no option is left, the
number of the next argument and how much of the one before has been read. -/
structure NextOption where
  letter : Char
  value : OptionValue
  isEnd : Bool
  nextArgument : Nat
  argumentOffset : Option Nat
deriving DecidableEq, Repr

/-- Whether a letter is an option, and whether it has a value, by a list of letters of which those with a
value have a colon behind them. -/
def takesValue? (letter : Char) : Text → Option Bool
  | [] => none
  | c :: ':' :: rest => if c = letter then some true else takesValue? letter rest
  | c :: rest => if c = letter then some false else takesValue? letter rest

/-- No option is left from an argument on. -/
def noOption (next : Nat) : NextOption :=
  ⟨'?', .kept, true, next, none⟩

/-- The letters from the next option on, and the number of the argument behind them. -/
def optionLetters (arguments : List Text) (next : Nat) (offset : Option Nat) :
    Except NextOption (Text × Nat) :=
  let begun := match offset, next with
    | some offset, index + 2 => ((arguments[index]?).getD []).drop offset
    | _, _ => []
  if begun ≠ [] then .ok (begun, next)
  else
    match arguments[next - 1]? with
    | some ['-', '-'] => .error (noOption (next + 1))
    | some ('-' :: letter :: letters) => .ok (letter :: letters, next + 1)
    | _ => .error (noOption next)

/-- The next option among arguments, by a list of letters. A colon in front of the list asks for the letter
of an option at fault. -/
def nextOption (letters : Text) (arguments : List Text) (next : Nat) (offset : Option Nat) :
    NextOption :=
  let isQuiet := letters.head? = some ':'
  let known := if isQuiet then letters.drop 1 else letters
  match optionLetters arguments next offset with
  | .error found => found
  | .ok ([], next) => noOption next
  | .ok (letter :: rest, next) =>
      let read := some (((arguments[next - 2]?).getD []).length - rest.length)
      let atFault (reported : Char) (left : Option Nat) : NextOption :=
        if isQuiet then ⟨reported, .is [letter], false, next, left⟩
        else ⟨'?', .missing (reported = ':') letter, false, next, left⟩
      match takesValue? letter known with
      | none => atFault '?' read
      | some false => ⟨letter, .is [], false, next, read⟩
      | some true =>
          if rest ≠ [] then ⟨letter, .is rest, false, next, none⟩
          else
            match arguments[next - 1]? with
            | some value => ⟨letter, .is value, false, next + 1, none⟩
            | none => atFault ':' none

/-- Reads the next option into parameters. -/
def readOption : List Text → Run Unit
  | letters :: name :: given => do
      let shell ← get
      let arguments := if given = [] then shell.arguments else given
      let isBehind := arguments.length + 1 < shell.nextArgument
      let next := if isBehind then 1 else shell.nextArgument
      let offset := if isBehind then none else shell.argumentOffset
      let found := nextOption letters arguments next offset
      match found.value with
      | .is value => assign "OPTARG".toList value
      | .missing known letter => do
          modify fun shell => shell.bind "OPTARG".toList none
          tell (if known then "No arg for -".toList ++ letter :: " option\n".toList
            else "Illegal option -".toList ++ [letter, '\n'])
      | .kept => pure ()
      modify fun shell =>
        { shell.withValue argumentCounter (Text.decimal found.nextArgument) with
          nextArgument := found.nextArgument
          argumentOffset := found.argumentOffset }
      if !isName name then mistake (.badName name)
      assign name [found.letter]
      finish (if found.isEnd then 1 else 0)
  | _ => mistake (.words "Usage: getopts optstring var [arg...]".toList)

example : nextOption "ab:".toList ["-a".toList, "-bx".toList] 1 none
    = ⟨'a', .is [], false, 2, some 2⟩ := by decide
example : nextOption "ab:".toList ["-a".toList, "-bx".toList] 2 (some 2)
    = ⟨'b', .is ['x'], false, 3, none⟩ := by decide

end SecureShell.Rehearsal.Shell
