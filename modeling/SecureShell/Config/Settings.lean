/-
Module: SecureShell.Config.Settings
Purpose: What the preferences of a caller add up to. Each preference changes one field; a scalar is
  replaced by the latest preference for it, identities and caller methods are collected in order, and the
  sources change as the source list says. The directories from which paths are read are settled before
  the first preference is applied.
Main exports: Overrides, Identity, Settings, Settings.initial, Settings.apply
-/
import SecureShell.Config.Preference
import SecureShell.Config.Source
import SecureShell.Connection.Destination
import SecureShell.Pattern.Glob

namespace SecureShell

/-- Values that outweigh every configuration source. -/
structure Overrides where
  user : Option Text
  port : Option Port
  hostname : Option Text
deriving DecidableEq, Repr

/-- Where the key of a registered identity is. -/
inductive IdentityOrigin where
  | inline (content : Bytes)
  | file (path : Path)
deriving DecidableEq, Repr

/-- A key that the caller registers for the hosts that match a pattern. -/
structure Identity where
  pattern : Text
  origin : IdentityOrigin
  passphrase : Option Text
deriving DecidableEq, Repr

namespace Identity

/-- Whether an identity is for a host. -/
def isFor (identity : Identity) (host : Text) : Bool :=
  Glob.matches identity.pattern host

/-- The pattern of an identity that is registered without patterns. -/
def everyHost : Text := ['*']

/-- The identities of one registration, one for each pattern. -/
def registered (origin : IdentityOrigin) (passphrase : Option Text) (patterns : List Text) :
    List Identity :=
  (if patterns = [] then [everyHost] else patterns).map fun pattern => ⟨pattern, origin, passphrase⟩

end Identity

/-- The preferences of a caller, added up. -/
structure Settings where
  sources : SourceList
  overrides : Overrides
  identities : List Identity
  passphrase : Option Text
  useAgent : Bool
  agentSocket : Option Path
  knownHosts : List Path
  password : Option Text
  callerMethods : List CallerMethod
  customDialer : Option CustomDialer
  connectLimit : Span
  proxyLimit : Span
  promptPassphrase : Bool
  home : Path
  directory : Path
deriving DecidableEq, Repr

namespace Settings

/-- The settings of a caller without preferences. -/
def initial (sources : SourceList) (agentSocket : Option Path) (home directory : Path) :
    Settings where
  sources := sources
  overrides := ⟨none, none, none⟩
  identities := []
  passphrase := none
  useAgent := true
  agentSocket := agentSocket
  knownHosts := []
  password := none
  callerMethods := []
  customDialer := none
  connectLimit := defaultConnectLimit
  proxyLimit := defaultProxyLimit
  promptPassphrase := true
  home := home
  directory := directory

/-- The path that a path in a preference stands for. -/
def place (settings : Settings) (written : Text) : Path :=
  Path.expand written settings.directory settings.home

/-- The settings with a changed source list. -/
def withSources (settings : Settings) (change : SourceList → SourceList) : Settings :=
  { settings with sources := change settings.sources }

/-- The settings with a file among the sources; the file has to be readable. -/
def withFile (settings : Settings) (files : FileSystem) (written : Text)
    (change : SourceList → Source → SourceList) : Except ConfigFailure Settings :=
  match Source.ofFile files written settings.directory settings.home with
  | .error failure => .error failure
  | .ok source => .ok (settings.withSources (change · source))

/-- The settings with data among the sources. -/
def withData (settings : Settings) (content : Bytes)
    (change : SourceList → Source → SourceList) : Settings :=
  settings.withSources (change · (Source.ofData content settings.directory))

/-- The settings with a new registration behind the others. -/
def withIdentities (settings : Settings) (identities : List Identity) : Settings :=
  { settings with identities := settings.identities ++ identities }

/-- Applies one preference. The directories are settled already, so the preferences that name them change
nothing here. -/
def apply (files : FileSystem) (settings : Settings) : Preference → Except ConfigFailure Settings
  | .user name => .ok { settings with overrides := { settings.overrides with user := some name } }
  | .port port =>
      if port = 0 then .error (.invalidPort "*".toList "0".toList)
      else .ok { settings with overrides := { settings.overrides with port := some port } }
  | .hostname name =>
      .ok { settings with overrides := { settings.overrides with hostname := some name } }
  | .identityFile written passphrase patterns =>
      .ok (settings.withIdentities
        (Identity.registered (.file (settings.place written)) passphrase patterns))
  | .identityKey content passphrase patterns =>
      .ok (settings.withIdentities (Identity.registered (.inline content) passphrase patterns))
  | .passphrase text => .ok { settings with passphrase := some text }
  | .unshiftData content => .ok (settings.withData content SourceList.unshift)
  | .appendData content => .ok (settings.withData content SourceList.append)
  | .unshiftFile written => settings.withFile files written SourceList.unshift
  | .appendFile written => settings.withFile files written SourceList.append
  | .clearSources => .ok (settings.withSources SourceList.clear)
  | .useAgent wanted => .ok { settings with useAgent := wanted }
  | .agentSocket path => .ok { settings with agentSocket := some path }
  | .knownHosts written => .ok { settings with knownHosts := written.map settings.place }
  | .password text => .ok { settings with password := some text }
  | .callerMethod method =>
      .ok { settings with callerMethods := settings.callerMethods ++ [method] }
  | .customDialer dialer => .ok { settings with customDialer := some dialer }
  | .connectLimit span => .ok { settings with connectLimit := span }
  | .proxyLimit span => .ok { settings with proxyLimit := span }
  | .promptPassphrase wanted => .ok { settings with promptPassphrase := wanted }
  | .homeDirectory _ => .ok settings
  | .currentDirectory _ => .ok settings

/-- Applies preferences in order until one fails. -/
def applyAll (files : FileSystem) (settings : Settings) :
    List Preference → Except ConfigFailure Settings
  | [] => .ok settings
  | preference :: rest =>
      match settings.apply files preference with
      | .error failure => .error failure
      | .ok changed => applyAll files changed rest

end Settings

end SecureShell
