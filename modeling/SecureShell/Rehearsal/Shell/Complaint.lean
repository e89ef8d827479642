/-
Module: SecureShell.Rehearsal.Shell.Complaint
Purpose: What a shell has to say about mistakes. A complaint is its cause; the wording is made of it in one
  place. Where the system has refused a file, a shell tells only whether it was to be read, to be made or to
  be run, and gives the reason of the system in the other cases.
Main exports: Complaint, Complaint.message
-/
import SecureShell.FileSystem.Basic

namespace SecureShell.Rehearsal.Shell

/-- What a shell complains about. -/
inductive Complaint where
  | illegalNumber (text : Text)
  | illegalOption (option : Text)
  | illegalMode (text : Text)
  | badName (name : Text)
  | fixedName (name : Text)
  | missingValue (name : Text) (orNull : Bool)
  | missing (name reason : Text)
  | badSubstitution
  | badStreamNumber
  | closedStream (number : Text)
  | unopened (name : Text) (cause : SystemError)
  | uncreated (name : Text) (cause : SystemError)
  | uncalled (name : Text) (cause : SystemError)
  | unentered (name : Text)
  | tooFewArguments
  | outsideFunction
  | tooDeep
  | noProcess
  | noJob (name : Text)
  | words (text : Text)
deriving DecidableEq, Repr

/-- The reason for which a file is not there to be used, or that of the system in other cases. -/
def absenceOr (absence : String) (cause : SystemError) : Text :=
  match cause with
  | .notFound => absence.toList
  | .notDirectory => absence.toList
  | cause => cause.reason

/-- The wording of a complaint. -/
def Complaint.message : Complaint → Text
  | .illegalNumber text => "Illegal number: ".toList ++ text
  | .illegalOption option => "Illegal option ".toList ++ option
  | .illegalMode text => "Illegal mode: ".toList ++ text
  | .badName name => name ++ ": bad variable name".toList
  | .fixedName name => name ++ ": is read only".toList
  | .missingValue name orNull =>
      name ++ ": parameter not set".toList ++ if orNull then " or null".toList else []
  | .missing name reason => name ++ ": ".toList ++ reason
  | .badSubstitution => "Bad substitution".toList
  | .badStreamNumber => "Syntax error: Bad fd number".toList
  | .closedStream number => number ++ ": ".toList ++ SystemError.badStream.reason
  | .unopened name cause => "cannot open ".toList ++ name ++ ": ".toList ++ absenceOr "No such file" cause
  | .uncreated name cause =>
      "cannot create ".toList ++ name ++ ": ".toList ++ absenceOr "Directory nonexistent" cause
  | .uncalled name cause => name ++ ": ".toList ++ absenceOr "not found" cause
  | .unentered name => "can't cd to ".toList ++ name
  | .tooFewArguments => "can't shift that many".toList
  | .outsideFunction => "not in a function".toList
  | .tooDeep => "Maximum function recursion depth (1000) reached".toList
  | .noProcess => "No such process".toList
  | .noJob name => "No such job: ".toList ++ name
  | .words text => text

end SecureShell.Rehearsal.Shell
