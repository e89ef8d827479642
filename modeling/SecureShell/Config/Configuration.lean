/-
Module: SecureShell.Config.Configuration
Purpose: A configuration is built from the preferences of a caller: the home and the working directory are
  settled first, then the default sources are looked up, then the preferences are applied in order, and at
  last every source is read once. Afterwards a configuration does not change.
Main exports: Environment, Configuration, Configuration.build, Configuration.buildFrom,
  Configuration.summary
-/
import SecureShell.Config.Settings
import SecureShell.Config.Store

namespace SecureShell

/-- What a process is told about the user and about itself: the variables that name the home directory
and the agent's socket, the home directory of the user's account, and the working directory. -/
structure Environment where
  home : Option Path
  agentSocket : Option Path
  accountHome : Option Path
  directory : Except SystemError Path

namespace Environment

/-- The value of a variable that is set to something. -/
def filled (value : Option Path) : Option Path :=
  value.filter (·.text ≠ [])

/-- The home directory of the user: the variable outweighs the account. -/
def homeDirectory? (environment : Environment) : Option Path :=
  (filled environment.home).or environment.accountHome

end Environment

/-- Settings with the sources that they name, read. -/
structure Configuration where
  settings : Settings
  store : Store

namespace Configuration

/-- The latest preference for the home directory. -/
def preferredHome : List Preference → Option Path
  | [] => none
  | .homeDirectory path :: rest => some ((preferredHome rest).getD path)
  | _ :: rest => preferredHome rest

/-- The latest preference for the working directory. -/
def preferredDirectory : List Preference → Option Path
  | [] => none
  | .currentDirectory path :: rest => some ((preferredDirectory rest).getD path)
  | _ :: rest => preferredDirectory rest

/-- The home directory that holds for a build. -/
def settledHome (environment : Environment) (preferences : List Preference) :
    Except ConfigFailure Path :=
  match (preferredHome preferences).or environment.homeDirectory? with
  | some home => .ok home
  | none => .error .homeUnknown

/-- The working directory that holds for a build. -/
def settledDirectory (environment : Environment) (preferences : List Preference) :
    Except ConfigFailure Path :=
  match preferredDirectory preferences with
  | some directory => .ok directory
  | none => environment.directory.mapError .system

/-- Reads the sources of finished settings. -/
def load (files : FileSystem) (settings : Settings) : Except ConfigFailure Configuration :=
  match settings.sources.load files settings.home with
  | .error failure => .error (.malformed failure)
  | .ok store => .ok ⟨settings, store⟩

/-- Builds a configuration on a given source list. -/
def buildOn (files : FileSystem) (environment : Environment) (home directory : Path)
    (sources : SourceList) (preferences : List Preference) : Except ConfigFailure Configuration := do
  let start := Settings.initial sources (Environment.filled environment.agentSocket) home directory
  load files (← start.applyAll files preferences)

/-- Builds a configuration; `initial` gives the sources before the first preference from the working
directory and the home directory. -/
def buildFrom (initial : Path → Path → Except ConfigFailure SourceList) (files : FileSystem)
    (environment : Environment) (preferences : List Preference) :
    Except ConfigFailure Configuration := do
  let home ← settledHome environment preferences
  let directory ← settledDirectory environment preferences
  let sources ← initial directory home
  buildOn files environment home directory sources preferences

/-- Builds a configuration on the default sources. -/
def build (files : FileSystem) (environment : Environment) (preferences : List Preference) :
    Except ConfigFailure Configuration :=
  buildFrom (SourceList.defaults files) files environment preferences

/-- The paths of the sources, highest priority first. -/
def sourcePaths (configuration : Configuration) : List Path :=
  configuration.store.paths

/-- Overrides in a summary. -/
def overridesSummary (overrides : Overrides) : Text :=
  Summary.record "Overrides".toList
    [("user".toList, Summary.optional (overrides.user.map Text.quoted)),
      ("port".toList, Summary.optional (overrides.port.map Port.text)),
      ("hostname".toList, Summary.optional (overrides.hostname.map Text.quoted))]

/-- A configuration in one line, without its secrets. -/
def summary (configuration : Configuration) : Text :=
  let settings := configuration.settings
  Summary.openRecord "Config".toList
    [("sources".toList, Summary.list (configuration.sourcePaths.map Path.summary)),
      ("overrides".toList, overridesSummary settings.overrides),
      ("identities".toList, Text.decimal settings.identities.length),
      ("use_agent".toList, Summary.bool settings.useAgent),
      ("known_hosts".toList, Summary.list (settings.knownHosts.map Path.summary)),
      ("auth_methods".toList, Text.decimal settings.callerMethods.length)]

end Configuration

end SecureShell
