/-
Module: SecureShell.Rehearsal.Shell.RecordNames
Purpose: What the names of a program stand for that deals with records. Each stands for a value or for a table wherever
  it is used, and what is called has to be a function. Names that a function has for its arguments are its own.
Main exports: RecordNames.faults, RecordScript.read
-/
import SecureShell.Rehearsal.Shell.RecordReading

namespace SecureShell.Rehearsal.Shell

/-- What a name stands for in a program. -/
inductive RecordNameKind where
  | variable
  | array
deriving DecidableEq, Repr

/-- Brackets that are open: those of a call of a function that the program defines, those of a function that splits a
text, those in which a name may stand for anything, and others. `place` is the number of the argument. -/
inductive RecordBracket where
  | call (name : Text) (place : Nat)
  | split (place : Nat)
  | either
  | plain
deriving DecidableEq, Repr

/-- What is known of the names of a program: what they stand for, the ones of the function that is read among them; the
names of its arguments; the functions with the number of their arguments; the calls that have been found, with the
number of their arguments and their lines; the brackets and the number of braces that are open; and what is wrong, the
last first. -/
structure RecordNames where
  kinds : List ((Bool × Text) × RecordNameKind)
  parameters : List Text
  functions : List (Text × Nat)
  calls : List (Text × Nat × Nat)
  brackets : List RecordBracket
  braces : Nat
  faults : List RecordFault
deriving DecidableEq, Repr

namespace RecordNames

/-- The names that stand for something in all programs. -/
def known : List ((Bool × Text) × RecordNameKind) :=
  let named (kind : RecordNameKind) (name : String) := ((false, name.toList), kind)
  ["NR", "FNR", "NF", "FS", "OFS", "RS", "ORS", "SUBSEP", "CONVFMT", "OFMT", "RSTART", "RLENGTH", "FILENAME",
    "ARGC"].map (named .variable) ++ ["ARGV", "ENVIRON"].map (named .array)

/-- What is known at the beginning. -/
def start : RecordNames :=
  ⟨known, [], [], [], [], 0, []⟩

/-- What is known with something that is wrong. -/
def withFault (names : RecordNames) (line left : Nat) (words : Text) : RecordNames :=
  { names with faults := ⟨line, words, left, true⟩ :: names.faults }

/-- What is known of names when one of them is used as something. -/
def noting (names : RecordNames) (line left : Nat) (name : Text) (kind : RecordNameKind) : RecordNames :=
  let isLocal := names.parameters.contains name
  match names.kinds.lookup (isLocal, name) with
  | none => { names with kinds := ((isLocal, name), kind) :: names.kinds }
  | some found =>
      if found = kind then names
      else
        let words : String := match found with
          | .variable => "variable "
          | .array => "array "
        names.withFault line left ("illegal reference to ".toList
          ++ (if isLocal then "local ".toList else []) ++ words.toList ++ name)

/-- Whether a sign comes first. -/
def isSign (signs : List String) : Option RecordToken → Bool
  | some ⟨.sign sign, _, _⟩ => signs.contains sign
  | _ => false

/-- Whether a word comes first. -/
def isWord (word : String) : Option RecordToken → Bool
  | some ⟨.word found, _, _⟩ => found = word
  | _ => false

/-- What a name is used as between two tokens; nothing if it may be anything. -/
def usage? (bracket : Option RecordBracket) (before behind : Option RecordToken) : Option RecordNameKind :=
  let isAlone := isSign ["(", ","] before && isSign [",", ")"] behind
  if isSign ["["] behind || isWord "in" before || isWord "delete" before then some .array
  else
    match bracket with
    | some (.split 1) => some (if isAlone then .array else .variable)
    | some (.call _ _) => if isAlone then none else some .variable
    | some .either => if isAlone then none else some .variable
    | _ => some .variable

/-- Brackets with the innermost at its next argument. -/
def stepped : List RecordBracket → List RecordBracket
  | .call name place :: rest => .call name (place + 1) :: rest
  | .split place :: rest => .split (place + 1) :: rest
  | brackets => brackets

/-- The bracket behind the name of a function. -/
def bracketOf (name : Text) : RecordBracket :=
  match RecordReading.functions.lookup (String.ofList name) with
  | some (.split, _) => .split 0
  | some (.length, _) => .either
  | some _ => .plain
  | none => .call name 0

/-- What is known behind a call with a number of arguments. -/
def calling (names : RecordNames) (line left : Nat) (name : Text) (count : Nat) : RecordNames :=
  match names.functions.lookup name with
  | some most =>
      if most < count then names.withFault line left ("too many arguments in call to ".toList ++ name) else names
  | none => { names with calls := (name, count, line) :: names.calls }

/-- The names of the arguments of a function that is defined. -/
def parametersOf (tokens : List RecordToken) : List Text :=
  tokens.filterMap fun token => match token.kind with
    | .name name => some name
    | _ => none

/-- What is known behind the beginning of a definition. -/
def defining (names : RecordNames) (line left : Nat) (name : Text) (parameters : List Text) : RecordNames :=
  let isKnown := (names.functions.lookup name).isSome
  let names := if isKnown then names.withFault line left ("redefinition of ".toList ++ name) else names
  let names := parameters.zipIdx.foldl (fun (names : RecordNames) (parameter, index) =>
    if (parameters.take index).contains parameter then
      names.withFault line left (parameter ++ " is duplicated in argument list".toList)
    else names) names
  { names with
    parameters
    functions := (name, parameters.length) :: names.functions
    kinds := names.kinds.filter fun entry => !entry.1.1 }

/-- What is known behind tokens, in front of which another one stands. `fuel` bounds their number. -/
def reading : (fuel : Nat) → (before : Option RecordToken) → List RecordToken → RecordNames → RecordNames
  | 0, _, _, names => names
  | _, _, [], names => names
  | fuel + 1, before, token :: rest, names =>
      let left := rest.length
      let go (names : RecordNames) : RecordNames := reading fuel (some token) rest names
      let closing (names : RecordNames) : RecordNames := { names with brackets := names.brackets.drop 1 }
      match token.kind with
      | .word "function" =>
          match rest with
          | ⟨kind, line, _⟩ :: behind =>
              let name? := match kind with
                | .called name => some name
                | .name name => some name
                | _ => none
              match name? with
              | some name =>
                  let head := behind.takeWhile fun token => !isSign [")"] (some token)
                  let behind := behind.drop head.length
                  reading fuel none behind (names.defining line behind.length name (parametersOf head))
              | none => go names
          | [] => names
      | .called name =>
          reading fuel (rest.head?) (rest.drop 1)
            { names with brackets := bracketOf name :: names.brackets }
      | .name name =>
          if (RecordReading.functions.lookup (String.ofList name)).isSome then go names
          else
            match usage? names.brackets.head? before rest.head? with
            | some kind => go (names.noting token.line left name kind)
            | none => go names
      | .sign "(" => go { names with brackets := .plain :: names.brackets }
      | .sign "[" => go { names with brackets := .plain :: names.brackets }
      | .sign "]" => go (closing names)
      | .sign "," => go { names with brackets := stepped names.brackets }
      | .sign ")" =>
          match names.brackets.head? with
          | some (.call name place) =>
              let count := if isSign ["("] before then 0 else place + 1
              go ((closing names).calling token.line left name count)
          | _ => go (closing names)
      | .sign "\x7b" => go { names with braces := names.braces + 1 }
      | .sign "\x7d" =>
          let braces := names.braces - 1
          go { names with braces, parameters := if braces = 0 then [] else names.parameters }
      | _ => go names

/-- What is wrong with the calls of a program that have been found before their functions, the last first. -/
def callFaults (names : RecordNames) (last : Nat) : List RecordFault :=
  let (unknown, others) := names.calls.partition fun call => (names.functions.lookup call.1).isNone
  unknown.map (fun call => RecordToken.faultIn last ("function ".toList ++ call.1 ++ " never defined".toList))
    ++ others.filterMap fun (name, count, line) =>
      if (names.functions.lookup name).any (· < count) then
        some (RecordToken.faultIn line ("too many arguments in call to ".toList ++ name))
      else none

/-- Tokens up to a brace that closes although none is open, and the tokens from there on. -/
def cutAtExtra : (braces : Nat) → List RecordToken → List RecordToken × List RecordToken
  | _, [] => ([], [])
  | braces, token :: rest =>
      if token.kind == .sign "\x7d" then
        match braces with
        | 0 => ([], token :: rest)
        | braces + 1 =>
            let (front, behind) := cutAtExtra braces rest
            (token :: front, behind)
      else
        let (front, behind) := cutAtExtra (if token.kind == .sign "\x7b" then braces + 1 else braces) rest
        (token :: front, behind)

/-- What is wrong with tokens from a brace on that closes although none is open. -/
def extraFaults : List RecordToken → List RecordFault
  | [] => []
  | token :: rest =>
      RecordToken.faultIn token.line "extra '\x7d'".toList
        :: match rest with
          | [] => [RecordToken.faultIn token.line "syntax error at or near end of line".toList]
          | next :: _ =>
              if next.kind == .lineEnd then
                [RecordToken.faultIn token.line "syntax error at or near end of line".toList]
              else []

/-- Tokens without the brackets that close although none is open, and what is wrong with these. `isOpen` tells how many
are open. -/
def withoutExtra : (isOpen : Nat) → List RecordToken → List RecordToken × List RecordFault
  | _, [] => ([], [])
  | isOpen, token :: rest =>
      if token.kind == .sign ")" ∧ isOpen = 0 then
        let (tokens, faults) := withoutExtra 0 rest
        (tokens, ⟨token.line, "extra ')'".toList, tokens.length, true⟩ :: faults)
      else
        let isOpen :=
          if token.kind == .sign "(" then isOpen + 1 else if token.kind == .sign ")" then isOpen - 1 else isOpen
        let (tokens, faults) := withoutExtra isOpen rest
        (token :: tokens, faults)

/-- Whether a statement ends at a token. -/
def isEnd (token : RecordToken) : Bool :=
  isSign [";", "\x7d"] (some token) || token.kind == .lineEnd

/-- What is wrong with tokens that have been read up to one that is out of place: a bracket is missing if one is open at
the end of a statement, and those that close behind it are too many. -/
def refined (tokens : List RecordToken) (fault : RecordFault) : List RecordFault :=
  let before := tokens.take (tokens.length - fault.left - 1)
  let count (sign : String) : Nat := (before.filter fun token => token.kind == .sign sign).length
  match tokens[before.length]? with
  | some token =>
      if isEnd token ∧ count ")" < count "(" ∧ "syntax error".toList.isPrefixOf fault.words = true then
        { fault with words := "missing ) near ".toList ++ token.shown }
          :: (withoutExtra 0 (tokens.drop before.length)).2
      else [fault]
  | none => [fault]

/-- Whether more braces open than close. -/
def isOpen (tokens : List RecordToken) : Bool :=
  let count (sign : String) : Nat := (tokens.filter fun token => token.kind == .sign sign).length
  decide (count "\x7d" < count "\x7b")

/-- What is wrong with a program whose tokens have been read up to one that is out of place. A brace that is missing is
told behind what else is wrong. -/
def readingFaults (names : RecordNames) (tokens : List RecordToken) (last : Nat) (fault : RecordFault) :
    List RecordFault :=
  names.faults.reverse.filter (fun found => fault.left ≤ found.left)
    ++ (if fault.words = [] then [] else refined tokens fault)
    ++ if isOpen tokens then [RecordToken.faultIn last "missing \x7d near end of file".toList] else []

end RecordNames

/-- Reads a program, or tells what is wrong with it. -/
def RecordScript.read (text : Text) : Except (List RecordFault) RecordScript :=
  match RecordToken.readAll (text ++ ['\n']) with
  | .error fault => .error [fault]
  | .ok all =>
      let (tokens, extra) := RecordNames.cutAtExtra 0 all.dropLast
      let (tokens, extraBrackets) := RecordNames.withoutExtra 0 tokens
      let last := text.count '\n' + 2
      let term := RecordReading.readTerm (14 * tokens.length + 14)
      let statement := RecordReading.readStatement term (tokens.length + 1)
      let names := RecordNames.reading tokens.length none tokens .start
      let names := { names with
        faults := (names.faults ++ extraBrackets.reverse).mergeSort fun first second => first.left ≤ second.left }
      match RecordReading.readRules term statement (tokens.length + 1) 0 tokens with
      | .ok script =>
          let faults := names.faults.reverse ++ RecordNames.extraFaults extra
          let faults := if faults = [] then names.callFaults last else faults
          if faults = [] then .ok script else .error faults
      | .error fault => .error (names.readingFaults tokens last fault)

end SecureShell.Rehearsal.Shell
