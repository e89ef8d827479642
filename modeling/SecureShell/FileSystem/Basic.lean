/-
Module: SecureShell.FileSystem.Basic
Purpose: What the library asks of a file system, and the reasons for which such a question fails. A file
  system is a record of answers, so that a statement about every file system is one about every record.
Main exports: SystemError, SystemError.message, FileSystem, FileSystem.readText, FileSystem.readText_eq_ok_iff,
  FileSystem.readText_eq_error_iff
-/
import SecureShell.Bytes.Utf8
import SecureShell.Path.Basic

namespace SecureShell

/-- Reasons for which the system refuses a request. -/
inductive SystemError where
  | notFound
  | noSuchDevice
  | badStream
  | permissionDenied
  | exists
  | notDirectory
  | isDirectory
  | invalidArgument
  | nameTooLong
  | notEmpty
  | tooManyLinks
  | networkUnreachable
  | connectionRefused
  | notText
  | nullInName
  | nullInSocketName
  | nullInArgument
  | argumentTooLong
  | badFormat
  | socketNameTooLong
  | abstractNameTooLong
  | endOfInput
  | reported (text : Text)
deriving DecidableEq, Repr

/-- The reason for a refusal in words. -/
def SystemError.reason : SystemError → Text
  | .notFound => "No such file or directory".toList
  | .noSuchDevice => "No such device or address".toList
  | .argumentTooLong => "Argument list too long".toList
  | .badFormat => "Exec format error".toList
  | .badStream => "Bad file descriptor".toList
  | .permissionDenied => "Permission denied".toList
  | .exists => "File exists".toList
  | .notDirectory => "Not a directory".toList
  | .isDirectory => "Is a directory".toList
  | .invalidArgument => "Invalid argument".toList
  | .nameTooLong => "File name too long".toList
  | .notEmpty => "Directory not empty".toList
  | .tooManyLinks => "Too many levels of symbolic links".toList
  | .networkUnreachable => "Network is unreachable".toList
  | .connectionRefused => "Connection refused".toList
  | .notText => "stream did not contain valid UTF-8".toList
  | .nullInName => "file name contained an unexpected NUL byte".toList
  | .nullInSocketName => "paths must not contain interior null bytes".toList
  | .nullInArgument => "nul byte found in provided data".toList
  | .socketNameTooLong => "path must be shorter than SUN_LEN".toList
  | .abstractNameTooLong => "abstract socket name must be shorter than SUN_LEN".toList
  | .endOfInput => "unexpected end of file".toList
  | .reported text => text

/-- The number that the system gives to a refusal, if it is one of its own. -/
def SystemError.number? : SystemError → Option Nat
  | .notFound => some 2
  | .noSuchDevice => some 6
  | .argumentTooLong => some 7
  | .badFormat => some 8
  | .badStream => some 9
  | .permissionDenied => some 13
  | .exists => some 17
  | .notDirectory => some 20
  | .isDirectory => some 21
  | .invalidArgument => some 22
  | .nameTooLong => some 36
  | .notEmpty => some 39
  | .tooManyLinks => some 40
  | .networkUnreachable => some 101
  | .connectionRefused => some 111
  | _ => none

/-- The wording of a refusal: its reason, with its number if the system has one for it. -/
def SystemError.message (cause : SystemError) : Text :=
  match cause.number? with
  | some number => cause.reason ++ " (os error ".toList ++ Text.decimal number ++ [')']
  | none => cause.reason

/-- A file system as the answers it gives. `read` gives the whole content of a file; `present` tells
whether a name is taken, without following a link that it names; `opened` tries to open for reading;
`entered` gives the directory in which a process started there finds itself. -/
structure FileSystem where
  read : Path → Except SystemError Bytes
  present : Path → Bool
  opened : Path → Except SystemError Unit
  entered : Path → Except SystemError Path

namespace FileSystem

/-- The content of a file that has to be text. -/
def readText (files : FileSystem) (path : Path) : Except SystemError Text :=
  match files.read path with
  | .error cause => .error cause
  | .ok bytes =>
      match Utf8.decode bytes with
      | .error _ => .error .notText
      | .ok text => .ok text

/-- A file gives a text exactly if its content is that text in UTF-8. -/
theorem readText_eq_ok_iff {files : FileSystem} {path : Path} {text : Text} :
    files.readText path = .ok text ↔ ∃ bytes, files.read path = .ok bytes ∧ Utf8.decode bytes = .ok text := by
  unfold readText
  cases files.read path with
  | error cause => simp
  | ok bytes => cases decoded : Utf8.decode bytes <;> simp [decoded]

/-- Any other refusal than that of a content which is no text is the refusal of the file itself. -/
theorem readText_eq_error_iff {files : FileSystem} {path : Path} {cause : SystemError} (other : cause ≠ .notText) :
    files.readText path = .error cause ↔ files.read path = .error cause := by
  unfold readText
  cases files.read path with
  | error found => simp
  | ok bytes => cases decoded : Utf8.decode bytes <;> simp [decoded, other.symm]

end FileSystem

end SecureShell
