/-
Module: SecureShell.Connection.Failure
Purpose: Why a connection cannot be opened or used, as causes, and the wording of each cause.
Main exports: KeyRefusal, SessionFault, ConnectionFailure, ConnectionFailure.message
-/
import SecureShell.Config.Failure
import SecureShell.Key.Material
import SecureShell.Text.Span

namespace SecureShell

/-- Why a private key cannot be used. -/
inductive KeyRefusal where
  | notText
  | undecodable (fault : KeyFault)
  | passphraseUnread (cause : SystemError)
deriving DecidableEq, Repr

/-- The wording of a refusal. -/
def KeyRefusal.message : KeyRefusal → Text
  | .notText => "key is not valid UTF-8".toList
  | .undecodable fault => fault.message
  | .passphraseUnread cause => "failed to read passphrase: ".toList ++ cause.message

/-- What goes wrong in a session, as the protocol beneath it reports it: a channel is refused, the
connection ends over a request, it has ended before, or something else in words of its own. -/
inductive SessionFault where
  | channelRefused
  | disconnected
  | ended
  | reported (text : Text)
deriving DecidableEq, Repr

/-- The wording of a fault. -/
def SessionFault.message : SessionFault → Text
  | .channelRefused => "Failed to open channel (AdministrativelyProhibited)".toList
  | .disconnected => "Disconnected".toList
  | .ended => "Channel send error".toList
  | .reported text => text

/-- Reasons for which a connection cannot be opened or a command not be run. -/
inductive ConnectionFailure where
  | configuration (cause : ConfigFailure)
  | unusableKey (label : Text) (refusal : KeyRefusal)
  | agentUnreachable (socket : Path) (cause : SystemError)
  | agentUnlisted (cause : SystemError)
  | unopenedKnownHosts (path : Path) (cause : SystemError)
  | hostKeyRejected (host : Text) (port : Port)
  | dialerFailed (host : Text) (port : Port) (cause : SystemError)
  | unreachable (host : Text) (port : Port) (cause : SystemError)
  | connectTimeout (limit : Span)
  | proxyNotStarted (line : Text) (cause : SystemError)
  | proxyTimeout (limit : Span)
  | authenticationFailed
  | methodFailed (name : Text)
  | channelUnopened (fault : SessionFault)
  | commandUnsent (fault : SessionFault)
  | commandTimeout (limit : Span)
  | channelClosed
  | brokenSession (fault : SessionFault)
deriving DecidableEq, Repr

/-- The wording of a reason. -/
def ConnectionFailure.message : ConnectionFailure → Text
  | .configuration cause => cause.message
  | .unusableKey label refusal =>
      "failed to decode key ".toList ++ label ++ ": ".toList ++ refusal.message
  | .agentUnreachable socket cause =>
      "SSH agent not available: failed to connect to ".toList ++ socket.text ++ ": ".toList
        ++ cause.message
  | .agentUnlisted cause =>
      "SSH agent not available: failed to list agent keys: ".toList ++ cause.message
  | .unopenedKnownHosts path cause =>
      "failed to load known_hosts ".toList ++ path.text ++ ": ".toList ++ cause.message
  | .hostKeyRejected host port =>
      "host key for ".toList ++ host ++ ":".toList ++ port.text ++ " rejected".toList
  | .dialerFailed host port cause =>
      "connection failed: custom dialer failed for ".toList ++ host ++ ":".toList ++ port.text
        ++ ": ".toList ++ cause.message
  | .unreachable host port cause =>
      "connection failed: ".toList ++ host ++ ":".toList ++ port.text ++ ": ".toList
        ++ cause.message
  | .connectTimeout limit => "connection timed out after ".toList ++ limit.text
  | .proxyNotStarted line cause =>
      "failed to spawn proxy command ".toList ++ Text.quoted line ++ ": ".toList ++ cause.message
  | .proxyTimeout limit => "proxy command timed out after ".toList ++ limit.text
  | .authenticationFailed => "authentication failed: no valid credentials".toList
  | .methodFailed name => "command execution failed: ".toList ++ name ++ " failed".toList
  | .channelUnopened fault =>
      "command execution failed: failed to open channel: ".toList ++ fault.message
  | .commandUnsent fault =>
      "command execution failed: failed to exec command: ".toList ++ fault.message
  | .commandTimeout limit => "command timed out after ".toList ++ limit.text
  | .channelClosed => "channel closed unexpectedly without exit status".toList
  | .brokenSession fault => "SSH protocol error: ".toList ++ fault.message

end SecureShell
