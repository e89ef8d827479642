/-
Module: SecureShell.Connection.Destination
Purpose: Everything that opening one connection needs, fully resolved: where to go, as whom, with which
  keys and secrets, by which proxy, and for how long. Its summary shows where keys come from and whether
  secrets are present, but none of them.
Main exports: Destination, Destination.direct, Destination.summary
-/
import SecureShell.Connection.CallerMethod
import SecureShell.Key.Material
import SecureShell.Proxy
import SecureShell.Text.Span
import SecureShell.Text.Summary

namespace SecureShell

/-- How long opening a connection may take unless the caller says otherwise. -/
def defaultConnectLimit : Span := .ofSeconds 30

/-- How long a handshake through a proxy may take unless the caller says otherwise. -/
def defaultProxyLimit : Span := .ofSeconds 30

/-- A connection to be opened. Without known hosts every host key is accepted; the proxy runs in its
directory; a custom dialer takes the place of the network for connections without a proxy. -/
structure Destination where
  hostname : Text
  user : Text
  port : Port
  keys : List KeyMaterial
  password : Option Text
  callerMethods : List CallerMethod
  knownHosts : List Path
  useAgent : Bool
  agentSocket : Option Path
  proxy : Option Proxy
  proxyDirectory : Path
  connectLimit : Span
  proxyLimit : Span
  customDialer : Option CustomDialer
  promptPassphrase : Bool
deriving DecidableEq, Repr

/-- A quoted path in a summary. -/
def Path.summary (path : Path) : Text :=
  Text.quoted path.text

/-- A proxy in a summary. -/
def Proxy.summary : Proxy → Text
  | .command line => Summary.tagged "Command".toList (Text.quoted line)
  | .jump host => Summary.tagged "Jump".toList (Text.quoted host)

/-- Key material in a summary, without its content and its passphrase. -/
def KeyMaterial.summary (key : KeyMaterial) : Text :=
  Summary.record "KeyMaterial".toList
    [("path".toList, Summary.optional (key.path.map Path.summary)),
      ("bytes".toList, Summary.redacted),
      ("passphrase".toList, Summary.optional (key.passphrase.map fun _ => Summary.redacted))]

namespace Destination

/-- A connection without a proxy and without any credentials. -/
def direct (hostname user : Text) (port : Port) : Destination where
  hostname := hostname
  user := user
  port := port
  keys := []
  password := none
  callerMethods := []
  knownHosts := []
  useAgent := false
  agentSocket := none
  proxy := none
  proxyDirectory := ⟨"/".toList⟩
  connectLimit := defaultConnectLimit
  proxyLimit := defaultProxyLimit
  customDialer := none
  promptPassphrase := false

/-- What stands for a custom dialer in a summary, whichever it is. -/
def dialerSummary (dialer : Option CustomDialer) : Text :=
  Summary.optional (dialer.map fun _ => Text.quoted "<custom>".toList)

/-- A destination in one line, without its secrets. -/
def summary (destination : Destination) : Text :=
  Summary.record "DialConfig".toList
    [("hostname".toList, Text.quoted destination.hostname),
      ("user".toList, Text.quoted destination.user),
      ("port".toList, destination.port.text),
      ("keys".toList, Summary.list (destination.keys.map KeyMaterial.summary)),
      ("password".toList, Summary.optional (destination.password.map fun _ => Summary.redacted)),
      ("auth_methods".toList, Text.decimal destination.callerMethods.length),
      ("known_hosts".toList, Summary.list (destination.knownHosts.map Path.summary)),
      ("use_agent".toList, Summary.bool destination.useAgent),
      ("agent_socket".toList, Summary.optional (destination.agentSocket.map Path.summary)),
      ("proxy".toList, Summary.optional (destination.proxy.map Proxy.summary)),
      ("proxy_dir".toList, destination.proxyDirectory.summary),
      ("connect_timeout".toList, destination.connectLimit.text),
      ("proxy_timeout".toList, destination.proxyLimit.text),
      ("dialer".toList, dialerSummary destination.customDialer),
      ("prompt_passphrase".toList, Summary.bool destination.promptPassphrase)]

end Destination

end SecureShell
