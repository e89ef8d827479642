/-
Module: SecureShell.Rehearsal.Shell.RecordScript
Purpose: Programs that deal with records, which are the parts of a text, usually its lines, and consist of fields. A
  program has rules: each tells for which records something is done, and what.
Main exports: RecordTerm, RecordStatement, RecordPattern, RecordRule, RecordDefinition, RecordScript
-/
import SecureShell.Rehearsal.Shell.Expression

namespace SecureShell.Rehearsal.Shell

/-- What is done with two numbers. -/
inductive RecordOperation where
  | add
  | subtract
  | multiply
  | divide
  | remainder
  | power
deriving DecidableEq, Repr

/-- How two values are compared. -/
inductive RecordComparison where
  | less
  | lessOrEqual
  | equal
  | notEqual
  | greater
  | greaterOrEqual
deriving DecidableEq, Repr

/-- The functions that are part of the language. -/
inductive RecordFunction where
  | length
  | substring
  | index
  | split
  | replaceFirst
  | replaceAll
  | findPart
  | format
  | sine
  | cosine
  | arcTangent
  | exponential
  | logarithm
  | root
  | whole
  | random
  | seed
  | lower
  | upper
  | run
  | close
  | flush
  | time
deriving DecidableEq, Repr

/-- What has a value. What is assigned or stepped is a variable, an element of a table or a field; a list in brackets
can only be looked for in a table or printed. -/
inductive RecordTerm where
  | number (value : Float)
  | text (text : Text)
  | expression (expression : Expression)
  | variable (name : Text)
  | element (table : Text) (index : List RecordTerm)
  | field (number : RecordTerm)
  | assign (goal : RecordTerm) (operation : Option RecordOperation) (value : RecordTerm)
  | step (goal : RecordTerm) (rises isBefore : Bool)
  | negative (term : RecordTerm)
  | positive (term : RecordTerm)
  | not (term : RecordTerm)
  | combine (operation : RecordOperation) (first second : RecordTerm)
  | compare (comparison : RecordComparison) (first second : RecordTerm)
  | join (first second : RecordTerm)
  | match (negated : Bool) (term expression : RecordTerm)
  | both (first second : RecordTerm)
  | either (first second : RecordTerm)
  | choice (condition first second : RecordTerm)
  | isIn (index : List RecordTerm) (table : Text)
  | list (items : List RecordTerm)
  | call (name : Text) (arguments : List RecordTerm)
  | apply (function : RecordFunction) (arguments : List RecordTerm)
  | readLine (goal : Option RecordTerm)
  | readFile (goal : Option RecordTerm) (file : RecordTerm)
  | readCommand (goal : Option RecordTerm) (command : RecordTerm)
deriving BEq, Repr

/-- Where something is printed. -/
inductive RecordOutlet where
  | anew (file : RecordTerm)
  | behind (file : RecordTerm)
  | command (command : RecordTerm)
deriving BEq, Repr

/-- What is done. -/
inductive RecordStatement where
  | block (statements : List RecordStatement)
  | term (term : RecordTerm)
  | print (items : List RecordTerm) (outlet : Option RecordOutlet)
  | format (items : List RecordTerm) (outlet : Option RecordOutlet)
  | choose (condition : RecordTerm) (first : RecordStatement) (second : Option RecordStatement)
  | while (condition : RecordTerm) (body : RecordStatement)
  | doWhile (body : RecordStatement) (condition : RecordTerm)
  | for (first : Option RecordStatement) (condition : Option RecordTerm) (step : Option RecordStatement)
      (body : RecordStatement)
  | forEach (goal : RecordTerm) (table : Text) (body : RecordStatement)
  | next
  | nextFile
  | exit (status : Option RecordTerm)
  | return (value : Option RecordTerm)
  | break
  | continue
  | delete (table : Text) (index : Option (List RecordTerm))
deriving BEq, Repr

/-- For which records a rule is meant: before the first, behind the last, all, those with a condition, or those from
one to another. -/
inductive RecordPattern where
  | before
  | behind
  | always
  | having (condition : RecordTerm)
  | between (first last : RecordTerm)
deriving BEq, Repr

/-- A rule: its number among all, for which records it is meant, and what is done; the record is printed if nothing is
told. -/
structure RecordRule where
  place : Nat
  pattern : RecordPattern
  action : Option RecordStatement
deriving BEq, Repr

/-- A function that a program defines. -/
structure RecordDefinition where
  name : Text
  parameters : List Text
  body : RecordStatement
deriving BEq, Repr

/-- A program: its rules and functions. -/
structure RecordScript where
  rules : List RecordRule
  definitions : List RecordDefinition
deriving BEq, Repr

end SecureShell.Rehearsal.Shell
