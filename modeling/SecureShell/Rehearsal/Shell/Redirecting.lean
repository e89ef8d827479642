/-
Module: SecureShell.Rehearsal.Shell.Redirecting
Purpose: Redirections lead the streams of a command to files, to texts or to other streams while it runs. A
  redirection that cannot be made keeps the command from running.
Main exports: openForReading, openForWriting, redirectAll, withRedirections
-/
import SecureShell.Rehearsal.Shell.Expansion

namespace SecureShell.Rehearsal.Shell

open FileSystem (Node)

/-- The number of the stream that the name of a device stands for. -/
def deviceStream? (name : Text) : Option Nat :=
  if name = "/dev/stdin".toList then some 0
  else if name = "/dev/stdout".toList then some 1
  else if name = "/dev/stderr".toList then some 2
  else if "/dev/fd/".toList.isPrefixOf name then
    match name.drop 8 with
    | [digit] => if digit.isDigit then some (digit.toNat - '0'.toNat) else none
    | _ => none
  else none

/-- Whether a name stands for the device that holds nothing and forgets everything. -/
def isNullDevice (name : Text) : Bool :=
  name = "/dev/null".toList

/-- Whether a name stands for the device that gives null characters for ever. -/
def isZeroDevice (name : Text) : Bool :=
  name = "/dev/zero".toList

/-- What that device gives again and again. -/
def zeroUnit : Text := ['\x00']

/-- The text of a file, or why it cannot be read. -/
def ShellState.readable (shell : ShellState) (name : Text) : Except SystemError Text := do
  let place ← shell.resolve name
  match shell.tree.node? place with
  | some (.file content) => pure (ofBytes content)
  | some .directory => throw .isDirectory
  | some .socket => throw .noSuchDevice
  | _ => throw .notFound

/-- The text of a file. -/
def ShellState.fileText? (shell : ShellState) (name : Text) : Option Text :=
  (shell.readable name).toOption

/-- The stream of a file that is read, or why there is none. -/
def openForReading (name : Text) : Run (Except SystemError Stream) := do
  let shell ← get
  if isNullDevice name then return .ok (← newInput [] .nothing .device)
  if isZeroDevice name then return .ok (← newInput [] (.flood zeroUnit) .device)
  match deviceStream? name with
  | some number => pure (((shell.stream? number).map Except.ok).getD (.error .notFound))
  | none =>
      match shell.resolve name with
      | .error cause => pure (.error cause)
      | .ok place =>
          match shell.tree.node? place with
          | some (.file _) => pure (.ok (← newOpenFile ⟨some place, [], 0, true, false, false⟩))
          | some .directory => pure (.ok .directory)
          | _ => pure (.error .noSuchDevice)

/-- Ways to write a file: anew unless it is there already and has to be kept, anew in any case, behind what it
holds, or in the place of what it holds, which can also be read. -/
inductive WritingMode where
  | afresh
  | anyway
  | behind
  | within
deriving DecidableEq, Repr

/-- The stream of a file that is written, or why there is none. -/
def openForWriting (mode : WritingMode) (name : Text) : Run (Except SystemError Stream) := do
  let shell ← get
  if isNullDevice name || isZeroDevice name then return .ok .nowhere
  match deviceStream? name with
  | some number => pure (((shell.stream? number).map Except.ok).getD (.error .notFound))
  | none =>
      match shell.placeFor name with
      | .error cause => pure (.error cause)
      | .ok place =>
          let file : OpenFile := ⟨some place, [], 0, mode = .within, true, mode = .behind⟩
          let isKept := mode = .afresh ∧ shell.options.keepsFiles = true
          match shell.tree.node? place with
          | none =>
              if isKept ∧ shell.isTaken name = true then pure (.error .exists)
              else
                set (shell.withNode place (.file []))
                pure (.ok (← newOpenFile file))
          | some (.file _) =>
              if isKept then pure (.error .exists)
              else
                unless file.isRead || file.appends do set (shell.withFile place [])
                pure (.ok (← newOpenFile file))
          | some .directory => pure (.error .isDirectory)
          | some _ => pure (.error .noSuchDevice)

/-- The number of the stream that a text names by one digit. -/
def streamNumber? : Text → Option Nat
  | [digit] => if digit.isDigit then some (digit.toNat - '0'.toNat) else none
  | _ => none

/-- Makes a redirection, if it can be made. -/
def redirect (collector : Collector) (redirection : Redirection) : Run Bool := do
  let lead (complaint : SystemError → Complaint) (stream : Except SystemError Stream) : Run Bool :=
    match stream with
    | .ok stream => do
        modify fun shell => shell.withStream redirection.stream (some stream)
        pure true
    | .error cause => do
        complain (complaint cause)
        pure false
  match redirection.kind with
  | .readText => do
      let text ← fillDocument collector redirection.target
      lead (.unopened []) (.ok (← newInput text .nothing .pipe))
  | kind =>
      let target ← fillText collector redirection.target
      match kind with
      | .copyStream =>
          if target = ['-'] then
            modify fun shell => shell.withStream redirection.stream none
            pure true
          else
            match streamNumber? target with
            | none => mistake .badStreamNumber
            | some number =>
                if number = redirection.stream then pure true
                else
                  let stream := (← get).stream? number
                  lead (fun _ => .closedStream target) ((stream.map Except.ok).getD (.error .badStream))
      | .writeFile => lead (.uncreated target) (← openForWriting .afresh target)
      | .overwriteFile => lead (.uncreated target) (← openForWriting .anyway target)
      | .appendFile => lead (.uncreated target) (← openForWriting .behind target)
      | .openFile => lead (.uncreated target) (← openForWriting .within target)
      | _ => lead (.unopened target) (← openForReading target)

/-- Makes redirections one after the other, as far as they can be made. -/
def redirectAll (collector : Collector) : List Redirection → Run Bool
  | [] => pure true
  | first :: rest => do
      if ← redirect collector first then redirectAll collector rest else pure false

/-- A shell with the streams that it had before they were redirected. -/
def ShellState.redirectedBack (shell before : ShellState) : List Redirection → ShellState
  | [] => shell
  | first :: rest =>
      (shell.withStream first.stream (before.stream? first.stream)).redirectedBack before rest

/-- Runs a command with its streams redirected. Where this is not possible, `otherwise` is done. -/
def withRedirections (collector : Collector) (redirections : List Redirection)
    (otherwise action : Run Unit) : Run Unit := do
  let before ← get
  let ready ← redirectAll collector redirections
  let stop ← attempt (if ready then action else otherwise)
  modify fun shell => (shell.redirectedBack before redirections).forgetting before
  match stop with
  | none => pure ()
  | some stop => throw stop

end SecureShell.Rehearsal.Shell
