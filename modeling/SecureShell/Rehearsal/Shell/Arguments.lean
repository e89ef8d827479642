/-
Module: SecureShell.Rehearsal.Shell.Arguments
Purpose: The arguments of a program are options and operands. An option is a letter behind a dash, alone or
  together with others, and may have a value; it has also a name behind two dashes, of which only so much has
  to be written as no other name begins with. Two dashes alone end the options.
Main exports: OptionTable, Arguments, ArgumentFault, OptionTable.read, Arguments.has, Arguments.value?, Misuse
-/
import SecureShell.Text.Basic

namespace SecureShell.Rehearsal.Shell

/-- The options that a program knows: the letters of those without a value, of those with one, and of those
whose value may be missing, and the letters that names stand for. The letter of an option that has only a name
is none that can be written. `everywhere` tells whether options may stand behind operands. -/
structure OptionTable where
  plain : Text
  valued : Text
  optional : Text := []
  names : List (String × Char) := []
  everywhere : Bool := true

/-- Arguments as a program understands them: the options by their letters, each with its value if it has
one, and the operands. -/
structure Arguments where
  options : List (Char × Text)
  operands : List Text
deriving DecidableEq, Repr

/-- What is wrong with arguments: a letter, or a name as it is written, that a program does not know or that
stands for several names; a value that is missing; or one that is too many. -/
inductive ArgumentFault where
  | unknownLetter (letter : Char)
  | unknownName (written : Text)
  | ambiguous (written : Text) (names : List String)
  | letterWithoutValue (letter : Char)
  | nameWithoutValue (name : String)
  | nameWithValue (name : String)
deriving DecidableEq, Repr

/-- A text in single quotes. -/
def singleQuoted (text : Text) : Text :=
  '\'' :: text ++ ['\'']

/-- The wording of what is wrong. -/
def ArgumentFault.message : ArgumentFault → Text
  | .unknownLetter letter => "invalid option -- ".toList ++ singleQuoted [letter]
  | .unknownName written => "unrecognized option ".toList ++ singleQuoted ("--".toList ++ written)
  | .ambiguous written names =>
      "option ".toList ++ singleQuoted ("--".toList ++ written) ++ " is ambiguous; possibilities:".toList
        ++ names.flatMap fun name => ' ' :: singleQuoted ("--".toList ++ name.toList)
  | .letterWithoutValue letter => "option requires an argument -- ".toList ++ singleQuoted [letter]
  | .nameWithoutValue name =>
      "option ".toList ++ singleQuoted ("--".toList ++ name.toList) ++ " requires an argument".toList
  | .nameWithValue name =>
      "option ".toList ++ singleQuoted ("--".toList ++ name.toList) ++ " doesn't allow an argument".toList

/-- Why a program refuses its arguments, in words, and whether it tells how to ask for help. -/
structure Misuse where
  words : Text
  hints : Bool
deriving DecidableEq, Repr

namespace Misuse

/-- A refusal without a hint. -/
def plain (words : String) (quoted : Text) : Misuse :=
  ⟨words.toList ++ singleQuoted quoted, false⟩

/-- A refusal because of an operand that is missing. -/
def missingOperand : Misuse :=
  ⟨"missing operand".toList, true⟩

/-- A refusal because of an operand that is missing behind another one. -/
def missingOperandAfter (operand : Text) : Misuse :=
  ⟨"missing operand after ".toList ++ singleQuoted operand, true⟩

/-- A refusal because of an operand that is too many. -/
def extraOperand (operand : Text) : Misuse :=
  ⟨"extra operand ".toList ++ singleQuoted operand, true⟩

/-- What a program says that has been called by a name. -/
def message (called : Text) (misuse : Misuse) : Text :=
  called ++ ": ".toList ++ misuse.words ++ ['\n']
    ++ if misuse.hints then "Try ".toList ++ singleQuoted (called ++ " --help".toList)
      ++ " for more information.\n".toList
    else []

end Misuse

/-- A refusal because of what is wrong with arguments. -/
def ArgumentFault.misuse (fault : ArgumentFault) : Misuse :=
  ⟨fault.message, true⟩

namespace Arguments

/-- Whether an option is given. -/
def has (arguments : Arguments) (letter : Char) : Bool :=
  arguments.options.any (·.1 = letter)

/-- The value of an option. The last one counts. -/
def value? (arguments : Arguments) (letter : Char) : Option Text :=
  arguments.options.reverse.lookup letter

/-- The last of some options that is given. -/
def lastOf? (arguments : Arguments) (letters : Text) : Option Char :=
  (arguments.options.reverse.find? fun entry => letters.contains entry.1).map (·.1)

end Arguments

namespace OptionTable

/-- Reads the letters behind a dash. The value of an option is what stands behind its letter, or else the next
argument, which cannot be a value that may be missing. -/
def readLetters (table : OptionTable) (rest : List Text) :
    Text → Except ArgumentFault (List (Char × Text) × List Text)
  | [] => .ok ([], rest)
  | letter :: letters =>
      if table.valued.contains letter then
        match letters, rest with
        | [], [] => .error (.letterWithoutValue letter)
        | [], value :: rest => .ok ([(letter, value)], rest)
        | letters, rest => .ok ([(letter, letters)], rest)
      else if table.optional.contains letter then .ok ([(letter, letters)], rest)
      else if table.plain.contains letter then
        (readLetters table rest letters).map fun (options, rest) => ((letter, []) :: options, rest)
      else .error (.unknownLetter letter)

/-- The option that a name stands for, of which only the beginning may be written. -/
def named (table : OptionTable) (name written : Text) : Except ArgumentFault (String × Char) :=
  match table.names.find? fun entry => entry.1.toList = name with
  | some entry => .ok entry
  | none =>
      match table.names.filter fun entry => name.isPrefixOf entry.1.toList with
      | [] => .error (.unknownName written)
      | entry :: others =>
          if others.all fun other => other.2 = entry.2 then .ok entry
          else .error (.ambiguous written ((entry :: others).map (·.1)))

/-- Reads a name behind two dashes. Its value stands behind an equals sign, or else is the next argument unless
it may be missing. -/
def readName (table : OptionTable) (rest : List Text) (written : Text) :
    Except ArgumentFault (List (Char × Text) × List Text) := do
  let (name, letter) ← table.named (written.takeWhile (· ≠ '=')) written
  let value := (written.dropWhile (· ≠ '=')).drop 1
  if table.valued.contains letter then
    if '=' ∈ written then pure ([(letter, value)], rest)
    else
      match rest with
      | value :: rest => pure ([(letter, value)], rest)
      | [] => throw (.nameWithoutValue name)
  else if '=' ∈ written ∧ table.optional.contains letter = false then throw (.nameWithValue name)
  else pure ([(letter, value)], rest)

/-- Reads arguments. `fuel` bounds the steps. -/
def readFrom (table : OptionTable) : (fuel : Nat) → List Text → Except ArgumentFault Arguments
  | 0, operands => .ok ⟨[], operands⟩
  | _, [] => .ok ⟨[], []⟩
  | fuel + 1, argument :: rest =>
      match argument with
      | ['-', '-'] => .ok ⟨[], rest⟩
      | '-' :: c :: letters => do
          let (options, rest) ←
            if c = '-' then readName table rest letters else readLetters table rest (c :: letters)
          let arguments ← readFrom table fuel rest
          pure { arguments with options := options ++ arguments.options }
      | operand =>
          if table.everywhere then
            (readFrom table fuel rest).map fun arguments =>
              { arguments with operands := operand :: arguments.operands }
          else .ok ⟨[], operand :: rest⟩

/-- Reads arguments, unless something is wrong with them. -/
def read (table : OptionTable) (arguments : List Text) : Except Misuse Arguments :=
  match table.readFrom (arguments.length + 1) arguments with
  | .ok arguments => .ok arguments
  | .error fault => .error fault.misuse

example :
    ((OptionTable.mk ['c'] ['n'] [] [("lines", 'n')] true).readFrom 6
        ["a".toList, "-cn3".toList, "--line=4".toList, "--".toList, "-b".toList]).toOption
      = some ⟨[('c', []), ('n', ['3']), ('n', ['4'])], [['a'], ['-', 'b']]⟩ := by decide

end OptionTable

/-- Whether an argument is an option. -/
def isOption (argument : Text) : Bool :=
  match argument with
  | '-' :: _ :: _ => true
  | _ => false

/-- Arguments without options in front, of which some take the next argument as their value. -/
def afterOptions (withValue : List String) : List Text → List Text
  | [] => []
  | argument :: rest =>
      if argument = "--".toList then rest
      else if isOption argument then
        if withValue.contains (String.ofList argument) then
          match rest with
          | [] => []
          | _ :: rest => afterOptions withValue rest
        else afterOptions withValue rest
      else argument :: rest

/-- What an argument assigns, if it has an equals sign. -/
def assigned? (argument : Text) : Option (Text × Text) :=
  match argument.dropWhile (· ≠ '=') with
  | _ :: value => some (argument.takeWhile (· ≠ '='), value)
  | [] => none

end SecureShell.Rehearsal.Shell
