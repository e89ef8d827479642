/-
Module: SecureShell.Config.Resolution
Purpose: What a configuration says about a host: its name and port, the user, the keys and the proxy, and
  all of it together as a destination. Overrides outweigh the sources, and the sources outweigh the
  built-in values.
Main exports: Configuration.user, Configuration.port, Configuration.hostname, Configuration.get,
  Configuration.identityFile, Configuration.identities, Configuration.proxy, Configuration.destination,
  Configuration.destination_eq_ok_iff
-/
import SecureShell.Config.Configuration

namespace SecureShell.Configuration

/-- The user to log in as. -/
def user (configuration : Configuration) (host : Text) : Text :=
  configuration.settings.overrides.user.getD (configuration.store.get host "User".toList)

/-- The port to connect to, which is never zero. -/
def port (configuration : Configuration) (host : Text) : Except ConfigFailure Port :=
  match configuration.settings.overrides.port with
  | some port => .ok port
  | none =>
      let value := configuration.store.get host "Port".toList
      match Port.read? value with
      | some port => if port = 0 then .error (.invalidPort host value) else .ok port
      | none => .error (.invalidPort host value)

/-- The name to connect to, which is the alias itself when nothing else is said. -/
def hostname (configuration : Configuration) (host : Text) : Text :=
  match configuration.settings.overrides.hostname with
  | some name => name
  | none =>
      let name := configuration.store.get host "Hostname".toList
      if name = [] then host else name

/-- The value of any keyword. -/
def get (configuration : Configuration) (host keyword : Text) : Text :=
  let folded := Text.lower keyword
  if folded = "user".toList then configuration.user host
  else if folded = "port".toList then
    match configuration.settings.overrides.port with
    | some port => port.text
    | none => configuration.store.get host keyword
  else if folded = "hostname".toList then configuration.hostname host
  else configuration.store.get host keyword

/-- The identity file that has been the default once. -/
def legacyIdentity : Text := "~/.ssh/identity".toList

/-- The identity file that takes the place of a missing one of the old name. -/
def modernIdentity : Text := "~/.ssh/id_rsa".toList

/-- The path of the identity file that the sources name, whether it exists or not. -/
def identityPath (configuration : Configuration) (files : FileSystem) (host : Text) (port : Port) :
    Path :=
  let found := configuration.store.getWithBase host "IdentityFile".toList
  let base := found.2.getD configuration.settings.directory
  let home := configuration.settings.home
  let expanded :=
    Verbs.expand found.1 (configuration.user host) port.text (configuration.hostname host)
  let path := Path.expand expanded base home
  let legacy := Path.expand legacyIdentity base home
  if path.SameComponents legacy ∧ files.present legacy = false then
    Path.expand modernIdentity base home
  else path

/-- The identity file that the sources name, if it exists. -/
def identityFile (configuration : Configuration) (files : FileSystem) (host : Text) :
    Except ConfigFailure (Option Path) := do
  let port ← configuration.port host
  let path := configuration.identityPath files host port
  pure (if files.present path then some path else none)

/-- The content of a key file. -/
def readKey (files : FileSystem) (path : Path) : Except ConfigFailure Bytes :=
  (files.read path).mapError (.unreadableIdentity path)

/-- The key of a registered identity. -/
def identityKey (files : FileSystem) (identity : Identity) : Except ConfigFailure KeyMaterial :=
  match identity.origin with
  | .inline content => .ok ⟨content, none, identity.passphrase⟩
  | .file path => do pure ⟨← readKey files path, some path, identity.passphrase⟩

/-- The keys of identities, in order, until one cannot be read. -/
def identityKeys (files : FileSystem) : List Identity → Except ConfigFailure (List KeyMaterial)
  | [] => .ok []
  | identity :: rest => do
      let key ← identityKey files identity
      let keys ← identityKeys files rest
      pure (key :: keys)

/-- The keys for a host: the registered ones that are for it, in order of registration, and behind them
the one from the identity file. -/
def identities (configuration : Configuration) (files : FileSystem) (host : Text) :
    Except ConfigFailure (List KeyMaterial) := do
  let settings := configuration.settings
  let registered ← identityKeys files (settings.identities.filter (·.isFor host))
  match ← configuration.identityFile files host with
  | none => pure registered
  | some path => do
      let content ← readKey files path
      pure (registered ++ [⟨content, some path, settings.passphrase⟩])

/-- Whether a value names a proxy. -/
def isProxySet (value : Text) : Bool :=
  value ≠ [] && Text.lower value ≠ "none".toList

/-- The proxy for a host with the directory of the source that names it. A command goes before a jump
host. -/
def proxy (configuration : Configuration) (host : Text) : Option Proxy × Option Path :=
  let command := configuration.store.getWithBase host "ProxyCommand".toList
  let jump := configuration.store.getWithBase host "ProxyJump".toList
  if isProxySet command.1 then (some (.command command.1), command.2)
  else if isProxySet jump.1 then (some (.jump jump.1), jump.2)
  else (none, none)

/-- Everything that a connection to a host needs. -/
def destination (configuration : Configuration) (files : FileSystem) (host : Text) :
    Except ConfigFailure Destination := do
  let settings := configuration.settings
  let route := configuration.proxy host
  let port ← configuration.port host
  let keys ← configuration.identities files host
  pure
    { hostname := configuration.hostname host
      user := configuration.user host
      port := port
      keys := keys
      password := settings.password
      callerMethods := settings.callerMethods
      knownHosts := settings.knownHosts
      useAgent := settings.useAgent
      agentSocket := settings.agentSocket
      proxy := route.1
      proxyDirectory := route.2.getD settings.directory
      connectLimit := settings.connectLimit
      proxyLimit := settings.proxyLimit
      customDialer := settings.customDialer
      promptPassphrase := settings.promptPassphrase }

/-- There is a destination exactly if the port and the keys can be had, and it carries them with everything else that
the configuration says about the host and about every host. -/
theorem destination_eq_ok_iff {configuration : Configuration} {files : FileSystem} {host : Text}
    {destination : Destination} :
    configuration.destination files host = .ok destination ↔
      ∃ port keys, configuration.port host = .ok port ∧ configuration.identities files host = .ok keys ∧
        destination =
          { hostname := configuration.hostname host
            user := configuration.user host
            port, keys
            password := configuration.settings.password
            callerMethods := configuration.settings.callerMethods
            knownHosts := configuration.settings.knownHosts
            useAgent := configuration.settings.useAgent
            agentSocket := configuration.settings.agentSocket
            proxy := (configuration.proxy host).1
            proxyDirectory := (configuration.proxy host).2.getD configuration.settings.directory
            connectLimit := configuration.settings.connectLimit
            proxyLimit := configuration.settings.proxyLimit
            customDialer := configuration.settings.customDialer
            promptPassphrase := configuration.settings.promptPassphrase } := by
  simp only [Configuration.destination]
  cases configuration.port host with
  | error failure => simp [bind, Except.bind]
  | ok port =>
      cases configuration.identities files host with
      | error failure => simp [bind, Except.bind]
      | ok keys => simp [bind, Except.bind, pure, Except.pure, eq_comm]

end SecureShell.Configuration
