/-
Module: SecureShell.Config.Directive
Purpose: One line of a configuration text. A keyword is followed by blanks or an equals sign and the rest
  of the line. A number sign after a blank and outside double quotes begins a comment, except on a proxy
  command line, which is kept to its end. The arguments of host and include lines are split at blanks
  outside quotes; any other value may stand in one pair of quotes that encloses all of it.
Main exports: Directive, Directive.keywordAndRest, Directive.withoutComment, Directive.unquote,
  Directive.arguments, Directive.ofLine
-/
import SecureShell.Config.Failure
import SecureShell.Text.Blank

namespace SecureShell

/-- What a line that is neither empty nor a comment says. -/
inductive Directive where
  | host (patterns : List Text)
  | «include» (targets : List Text)
  | setting (keyword value : Text)
deriving DecidableEq, Repr

namespace Directive

/-- Whether a character ends the keyword at the beginning of a line. -/
def endsKeyword (c : Char) : Bool :=
  Text.isBlank c || c = '='

/-- The keyword of a line and what follows it, without the blanks around it and without one equals sign. -/
def keywordAndRest (line : Text) : Text × Text :=
  let keyword := line.takeWhile fun c => !endsKeyword c
  let behind := line.dropWhile fun c => !endsKeyword c
  (keyword, Text.trim (Text.afterOptional '=' (Text.trimStart behind)))

/-- The text in front of the first number sign that stands behind a blank and outside quotes, if there is
one. `inQuotes` and `afterBlank` say what came before. -/
def beforeComment (inQuotes afterBlank : Bool) : Text → Option Text
  | [] => none
  | c :: rest =>
      if c = '#' ∧ afterBlank = true ∧ inQuotes = false then some []
      else (beforeComment (inQuotes ^^ (c = '"')) (Text.isBlank c) rest).map (c :: ·)

/-- A value without the comment behind it and the blanks before the comment. -/
def withoutComment (value : Text) : Text :=
  match beforeComment false false value with
  | none => value
  | some kept => Text.trimEnd kept

/-- A value without the quotes that enclose all of it; other quotes stay. An odd number of quotes is an
open one. -/
def unquote (value : Text) : Except Fault Text :=
  if value.count '"' % 2 = 1 then .error .unclosedQuote
  else
    match value with
    | '"' :: behind =>
        if behind.getLast? = some '"' ∧ '"' ∉ behind.dropLast then .ok behind.dropLast
        else .ok value
    | _ => .ok value

/-- Splits at blanks outside quotes and drops the quotes. `pending` is the argument that has begun. -/
def splitArguments (inQuotes : Bool) (pending : Option Text) : Text → Except Fault (List Text)
  | [] => if inQuotes then .error .unclosedQuote else .ok pending.toList
  | c :: rest =>
      if c = '"' then splitArguments (!inQuotes) (some (pending.getD [])) rest
      else if Text.isBlank c = true ∧ inQuotes = false then
        (splitArguments inQuotes none rest).map (pending.toList ++ ·)
      else splitArguments inQuotes (some (pending.getD [] ++ [c])) rest

/-- The arguments of a line, its comment left out. -/
def arguments (value : Text) : Except Fault (List Text) :=
  splitArguments false none (withoutComment value)

/-- Reads the rest of a line according to its keyword. -/
def ofKeyword (keyword rest : Text) : Except Fault Directive :=
  if rest = [] then .error (.missingValue keyword)
  else
    let folded := Text.lower keyword
    if folded = "host".toList then
      match arguments rest with
      | .error fault => .error fault
      | .ok patterns =>
          if patterns = [] then .error .hostWithoutPatterns else .ok (.host patterns)
    else if folded = "match".toList then .error .matchLine
    else if folded = "include".toList then (arguments rest).map .include
    else if folded = "proxycommand".toList then .ok (.setting keyword rest)
    else
      match unquote (withoutComment rest) with
      | .error fault => .error fault
      | .ok value =>
          if value = [] then .error (.missingValue keyword) else .ok (.setting keyword value)

/-- What a line says; an empty line and a line that begins with a number sign say nothing. -/
def ofLine (line : Text) : Except Fault (Option Directive) :=
  match Text.trim line with
  | [] => .ok none
  | '#' :: _ => .ok none
  | trimmed =>
      let parts := keywordAndRest trimmed
      (ofKeyword parts.1 parts.2).map some

end Directive

end SecureShell
