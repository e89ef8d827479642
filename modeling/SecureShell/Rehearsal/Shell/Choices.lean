/-
Module: SecureShell.Rehearsal.Shell.Choices
Purpose: The choices that a script can make about how it is run. Each has a letter and a name; arguments
  in front of others make them, or take them back behind a plus sign.
Main exports: Options, Options.has, Options.writing, Options.read
-/
import SecureShell.Text.Basic

namespace SecureShell.Rehearsal.Shell

/-- The choices that have been made, by their letters. -/
structure Options where
  letters : Text
deriving DecidableEq, Repr

namespace Options

/-- No choices. -/
def usual : Options := ⟨[]⟩

/-- All choices by letter and name, in the order in which they are written. -/
def known : List (Char × String) :=
  [ ('p', "privileged"), ('u', "nounset"), ('b', "notify"), ('a', "allexport"), ('C', "noclobber"), ('E', "emacs"),
    ('V', "vi"), ('v', "verbose"), ('x', "xtrace"), ('s', "stdin"), ('n', "noexec"), ('m', "monitor"),
    ('i', "interactive"), ('I', "ignoreeof"), ('f', "noglob"), ('e', "errexit") ]

/-- The names of choices that have no letter and no effect. -/
def idleNames : List String := ["nolog", "debug"]

/-- Whether a choice has been made. -/
def has (options : Options) (letter : Char) : Bool :=
  options.letters.contains letter

/-- Whether a command that fails ends the shell. -/
def stopsOnFailure (options : Options) : Bool := options.has 'e'

/-- Whether a parameter has to be set where its value is wanted. -/
def needsParameters (options : Options) : Bool := options.has 'u'

/-- Whether a pattern stands for itself instead of for files. -/
def keepsPatterns (options : Options) : Bool := options.has 'f'

/-- Whether a file that is there is kept from being written anew. -/
def keepsFiles (options : Options) : Bool := options.has 'C'

/-- Whether programs see every parameter that is set. -/
def exportsAll (options : Options) : Bool := options.has 'a'

/-- Whether commands are read and not run. -/
def runsNothing (options : Options) : Bool := options.has 'n'

/-- The letters of the choices that have been made. -/
def writing (options : Options) : Text :=
  (known.map (·.1)).filter options.has

/-- The choices after one more, which is made or taken back. Jobs cannot be controlled without a
terminal. -/
def choose (options : Options) (value : Bool) (letter : Char) : Option Options :=
  if (known.lookup letter).isNone then none
  else
    let others := options.letters.filter (· ≠ letter)
    some ⟨if value && letter ≠ 'm' then letter :: others else others⟩

/-- The letter of a choice that is called by its name. -/
def letter? (name : Text) : Option Char :=
  (known.find? fun entry => entry.2.toList = name).map (·.1)

/-- What arguments have chosen: the choices, the letters among them that only a shell has at its start, and
the arguments behind them, if any are given. -/
structure Chosen where
  options : Options
  ownLetters : Text
  rest : Option (List Text)
deriving DecidableEq, Repr

/-- The letters that only a shell has at its start: it is given its script, or begins a session. -/
def startLetters : List Char := ['c', 'l']

/-- Makes the choices of letters; an `o` is followed by the name of a choice in the next argument. Fails with
the first letter or name that is not known. -/
def readLetters (atStart value : Bool) (letters : Text) (options : Options) (own : Text)
    (rest : List Text) : Except Text (Options × Text × List Text) :=
  match letters with
  | [] => .ok (options, own, rest)
  | 'o' :: letters =>
      match rest with
      | [] => readLetters atStart value letters options own []
      | name :: rest =>
          if idleNames.any fun idle => idle.toList = name then
            readLetters atStart value letters options own rest
          else
            match (letter? name).bind (options.choose value) with
            | some options => readLetters atStart value letters options own rest
            | none => .error ((if value then "-o ".toList else "+o ".toList) ++ name)
  | letter :: letters =>
      if atStart && startLetters.contains letter then
        readLetters atStart value letters options (letter :: own) rest
      else
        match options.choose value letter with
        | some options => readLetters atStart value letters options own rest
        | none => .error ['-', letter]

/-- Makes the choices that arguments ask for. `fuel` bounds the number of arguments. -/
def readFrom (atStart : Bool) :
    (fuel : Nat) → Options → (own : Text) → List Text → Except Text Chosen
  | 0, options, own, rest => .ok ⟨options, own, some rest⟩
  | _, options, own, [] => .ok ⟨options, own, none⟩
  | fuel + 1, options, own, argument :: rest =>
      match argument with
      | ['-'] =>
          let quiet : Options := ⟨options.letters.filter fun letter => letter ∉ ['x', 'v']⟩
          .ok ⟨quiet, own, if rest = [] then none else some rest⟩
      | ['-', '-'] => .ok ⟨options, own, some rest⟩
      | '-' :: letters => do
          let (options, own, rest) ← readLetters atStart true letters options own rest
          readFrom atStart fuel options own rest
      | '+' :: letters => do
          let (options, own, rest) ← readLetters atStart false letters options own rest
          readFrom atStart fuel options own rest
      | _ => .ok ⟨options, own, some (argument :: rest)⟩

/-- Makes the choices that arguments ask for; at the start of a shell there are more of them. Fails with the
first one that is not known. -/
def read (atStart : Bool) (options : Options) (arguments : List Text) : Except Text Chosen :=
  readFrom atStart (arguments.length + 1) options [] arguments

end Options

end SecureShell.Rehearsal.Shell
