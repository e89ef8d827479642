/-
Module: SecureShell.Rehearsal.Shell.Lookup
Purpose: Where the commands of a script are found that are not part of the shell: programs in the directories
  of the search path, and files that may be run. A name with a slash is a path.
Main exports: peerCommands, usualSearchPath, Found, ShellState.find, programPath?
-/
import SecureShell.Rehearsal.Shell.TextPrograms

namespace SecureShell.Rehearsal.Shell

/-- The names of the commands that connect to the peer. -/
def peerCommands : List Text := ["peer".toList, "ssh".toList]

/-- The directory of the commands that connect to the peer. -/
def peerDirectory : Text := "/peer/bin".toList

/-- The directories of all other programs. -/
def systemDirectories : List Text :=
  ["/usr/local/sbin", "/usr/local/bin", "/usr/sbin", "/usr/bin", "/sbin", "/bin"].map String.toList

/-- The search path at the beginning. -/
def usualSearchPath : Text :=
  List.intercalate [':'] (peerDirectory :: systemDirectories)

/-- Programs that only report something about the machine. -/
def reportingPrograms : List Text :=
  ["date", "hostname", "nproc", "uptime", "locale", "arch", "tty", "stty", "df", "du", "free", "ps",
    "who", "getent", "stat", "file", "find", "md5sum", "sha256sum", "base64", "od", "mktemp", "sync",
    "kill"].map String.toList

/-- The names of all programs but those that connect to the peer. -/
def programNames : List Text :=
  ["cat", "tee", "dd", "sleep", "true", "false", "echo", "printf", "test", "[", "pwd", "env", "sh",
    "dash", "bash", "timeout", "nohup", "nice", "ionice", "setsid", "stdbuf", "xargs", "basename", "dirname",
    "seq", "expr", "ls", "mkdir", "touch", "rm", "rmdir", "ln", "cp", "mv", "chmod", "readlink",
    "realpath", "whoami", "which", "yes", "grep", "egrep", "fgrep", "sed", "awk", "mawk", "nawk", "id",
    "uname", "printenv"].map String.toList
    ++ Filters.names ++ reportingPrograms

/-- What a name of a command leads to. -/
inductive Found where
  | peer (name : Text)
  | program (name : Text)
  | script (path text : Text)
  | refused (cause : SystemError)
deriving DecidableEq, Repr

/-- What is in a directory under a name. -/
def ShellState.findIn (shell : ShellState) (directory name : Text) : Found :=
  if directory = peerDirectory && peerCommands.contains name then .peer name
  else if systemDirectories.contains directory && programNames.contains name then .program name
  else
    let path := if directory = [] then name else directory ++ '/' :: name
    match shell.resolve path with
    | .error cause => .refused cause
    | .ok place =>
        match shell.tree.node? place with
        | some (.file content) =>
            if shell.isRunnable place then .script path (ofBytes content)
            else .refused .permissionDenied
        | _ => .refused .permissionDenied

/-- Whether a refusal says that nothing is there. -/
def isAbsence (cause : SystemError) : Bool :=
  cause = .notFound || cause = .notDirectory

/-- The first in directories that can be run. -/
def ShellState.findAmong (shell : ShellState) (name : Text) (cause : SystemError) : List Text → Found
  | [] => .refused cause
  | directory :: rest =>
      match shell.findIn directory name with
      | .refused other => shell.findAmong name (if isAbsence other then cause else other) rest
      | found => found

/-- The directory in front of the last slash of a name, and the name behind it. -/
def splitPath (name : Text) : Text × Text :=
  let parts := Text.segments '/' name
  (List.intercalate ['/'] parts.dropLast, parts.getLastD [])

/-- The directories in which commands are looked for, or those in which they usually are. -/
def ShellState.searchPath (shell : ShellState) (isUsual : Bool) : List Text :=
  if isUsual then systemDirectories
  else Text.segments ':' ((shell.value? "PATH").getD "/bin:/usr/bin".toList)

/-- What the name of a command leads to: a name with a slash is a path. -/
def ShellState.find (shell : ShellState) (isUsual : Bool) (name : Text) : Found :=
  if '/' ∈ name then
    let (directory, last) := splitPath name
    if last = [] then
      match shell.resolve name with
      | .ok _ => .refused .permissionDenied
      | .error cause => .refused cause
    else shell.findIn directory last
  else if name = [] then .refused .permissionDenied
  else shell.findAmong name .notFound (shell.searchPath isUsual)

/-- How many bytes an argument of a program must not reach. -/
def argumentLimit : Nat := 131072

/-- How many bytes all arguments of a program must not reach together. -/
def argumentsLimit : Nat := 2097152

/-- Whether a program can be given some arguments and what it sees of the parameters. -/
def ShellState.canHandDown (shell : ShellState) (arguments : List Text) : Bool :=
  let exported := shell.parameters.filterMap fun (name, parameter) =>
    if parameter.exported then parameter.value.map (name ++ '=' :: ·) else none
  let lengths := (arguments ++ exported).map fun text => text.length + 1
  lengths.all (· ≤ argumentLimit) && lengths.foldl (fun total length => total + length + 8) 0 < argumentsLimit

/-- The path of a program. -/
def programPath? (shell : ShellState) (name : Text) : Option Text :=
  match shell.find false name with
  | .peer found => some (if '/' ∈ name then name else peerDirectory ++ '/' :: found)
  | .program found => some (if '/' ∈ name then name else "/usr/bin/".toList ++ found)
  | .script path _ => some path
  | _ => none

end SecureShell.Rehearsal.Shell
