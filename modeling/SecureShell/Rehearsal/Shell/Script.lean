/-
Module: SecureShell.Rehearsal.Shell.Script
Purpose: The structure of a shell script. A word is a sequence of fragments: characters, and places that
  are filled in when the command runs; a command is a simple one with its words and redirections, or it is
  made of other commands.
Main exports: Fragment, Use, Word, Redirection, Assignment, Branch, Script
-/
import SecureShell.Text.Basic

namespace SecureShell.Rehearsal.Shell

/-- What a redirection does to a stream. -/
inductive RedirectionKind where
  | readFile
  | writeFile
  | overwriteFile
  | appendFile
  | openFile
  | copyStream
  | readText
deriving DecidableEq, Repr

mutual

/-- A part of a word. What is quoted is not split and has no special meaning; a pair of quotes keeps a
word in being that would have no characters otherwise. -/
inductive Fragment where
  | char (c : Char) (quoted : Bool)
  | quotes
  | parameter (name : Text) (use : Use) (quoted : Bool)
  | arithmetic (expression : List Fragment) (quoted : Bool)
  | command (body : List Script) (quoted : Bool)

/-- What becomes of the value of a parameter. A word may stand in for the value, be assigned in its place,
be reported as missing or replace it; `evenEmpty` tells whether an empty value counts as none. -/
inductive Use where
  | value
  | length
  | orElse (evenEmpty : Bool) (word : List Fragment)
  | orAssign (evenEmpty : Bool) (word : List Fragment)
  | orFail (evenEmpty : Bool) (word : List Fragment)
  | ifPresent (evenEmpty : Bool) (word : List Fragment)
  | trimmed (atEnd : Bool) (longest : Bool) (pattern : List Fragment)
  | unknown

/-- The redirection of a stream. -/
structure Redirection where
  stream : Nat
  kind : RedirectionKind
  target : List Fragment

/-- The assignment of a word to a parameter. -/
structure Assignment where
  name : Text
  value : List Fragment

/-- A branch of a choice by pattern. -/
structure Branch where
  patterns : List (List Fragment)
  body : List Script

/-- A command. A simple one knows the number of its line. -/
inductive Script where
  | simple (line : Unit → Nat) (assignments : List Assignment) (words : List (List Fragment))
      (redirections : List Redirection)
  | redirected (body : Script) (redirections : List Redirection)
  | group (body : List Script)
  | subshell (body : List Script)
  | background (body : Script)
  | both (first second : Script)
  | either (first second : Script)
  | negated (body : Script)
  | piped (stages : List Script)
  | choice (condition yes no : List Script)
  | repetition (untilHolds : Bool) (condition body : List Script)
  | forEach (name : Text) (words : Option (List (List Fragment))) (body : List Script)
  | matching (subject : List Fragment) (branches : List Branch)
  | definition (name : Text) (body : Script)

end

/-- A word before it is filled in. -/
abbrev Word := List Fragment

/-- A word of characters that mean themselves. -/
def Word.literal (text : Text) : Word :=
  text.map fun c => .char c true

/-- Whether a character may stand in the name of a parameter. -/
def isNameChar (c : Char) : Bool :=
  c.isAlphanum || c = '_'

/-- Whether a character may begin the name of a parameter. -/
def isNameStart (c : Char) : Bool :=
  c.isAlpha || c = '_'

/-- Whether a text can name a parameter. -/
def isName : Text → Bool
  | [] => false
  | c :: rest => isNameStart c && rest.all isNameChar

/-- Whether a character names a parameter by itself. -/
def isSpecialName (c : Char) : Bool :=
  c.isDigit || c ∈ ['?', '#', '$', '!', '@', '*', '-']

end SecureShell.Rehearsal.Shell
