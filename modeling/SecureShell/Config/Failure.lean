/-
Module: SecureShell.Config.Failure
Purpose: Why a configuration cannot be used, as causes, and the wording of each cause. A fault in the text
  of a configuration carries the file and the line at which it stands; the first line is line one.
Main exports: Fault, SyntaxError, ConfigFailure, ConfigFailure.message
-/
import SecureShell.FileSystem.Basic
import SecureShell.Text.Quoted

namespace SecureShell

/-- The most Include levels below a text. -/
def includeLimit : Nat := 16

/-- What is wrong with a line or with a whole file. -/
inductive Fault where
  | missingValue (keyword : Text)
  | unclosedQuote
  | hostWithoutPatterns
  | matchLine
  | includeTooDeep
  | includeUnreadable (path : Path) (cause : SystemError)
  | notText (fault : Utf8.Fault)
deriving DecidableEq, Repr

/-- The wording for a configuration file that cannot be read. -/
def unreadableConfigMessage (path : Path) (cause : SystemError) : Text :=
  "failed to read ssh_config ".toList ++ path.text ++ ": ".toList ++ cause.message

/-- The wording of a fault. -/
def Fault.message : Fault → Text
  | .missingValue keyword => "missing value for ".toList ++ keyword
  | .unclosedQuote => "unterminated quoted value".toList
  | .hostWithoutPatterns => "Host without patterns".toList
  | .matchLine => "Match directives are not supported".toList
  | .includeTooDeep =>
      "Include nested deeper than ".toList ++ Text.decimal includeLimit ++ " levels".toList
  | .includeUnreadable path cause => unreadableConfigMessage path cause
  | .notText fault => "config is not valid UTF-8: ".toList ++ fault.message

/-- A fault with the file and the line that it belongs to. -/
structure SyntaxError where
  path : Path
  line : Nat
  fault : Fault
deriving DecidableEq, Repr

/-- The wording of a fault with its place in front. -/
def SyntaxError.message (failure : SyntaxError) : Text :=
  failure.path.text ++ ":".toList ++ Text.decimal failure.line ++ ": ".toList
    ++ failure.fault.message

/-- Reasons for which no configuration or no answer from it can be had. -/
inductive ConfigFailure where
  | unreadableConfig (path : Path) (cause : SystemError)
  | malformed (failure : SyntaxError)
  | invalidPort (host value : Text)
  | invalidJump (jump : Text)
  | unreadableIdentity (path : Path) (cause : SystemError)
  | homeUnknown
  | system (cause : SystemError)
deriving DecidableEq, Repr

/-- The wording of a reason. -/
def ConfigFailure.message : ConfigFailure → Text
  | .unreadableConfig path cause => unreadableConfigMessage path cause
  | .malformed failure => failure.message
  | .invalidPort host value =>
      "invalid port ".toList ++ Text.quoted value ++ " for host ".toList ++ host
  | .invalidJump jump =>
      "invalid ProxyJump ".toList ++ Text.quoted jump ++ ": port must be numeric".toList
  | .unreadableIdentity path cause =>
      "failed to read identity file ".toList ++ path.text ++ ": ".toList ++ cause.message
  | .homeUnknown => "could not determine home directory".toList
  | .system cause => "I/O error: ".toList ++ cause.message

end SecureShell
