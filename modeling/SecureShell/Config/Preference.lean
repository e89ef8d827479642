/-
Module: SecureShell.Config.Preference
Purpose: What a caller may ask of a configuration before it is built. Preferences are applied in the order
  in which they are given.
Main exports: Preference
-/
import SecureShell.Bytes.Utf8
import SecureShell.Connection.CallerMethod
import SecureShell.Path.Basic
import SecureShell.Text.Span

namespace SecureShell

/-- One preference of the caller. Identities are registered for hosts that match one of their patterns;
without patterns they are for every host. -/
inductive Preference where
  | user (name : Text)
  | port (port : Port)
  | hostname (name : Text)
  | identityFile (written : Text) (passphrase : Option Text) (patterns : List Text)
  | identityKey (content : Bytes) (passphrase : Option Text) (patterns : List Text)
  | passphrase (text : Text)
  | unshiftData (content : Bytes)
  | appendData (content : Bytes)
  | unshiftFile (written : Text)
  | appendFile (written : Text)
  | clearSources
  | useAgent (wanted : Bool)
  | agentSocket (path : Path)
  | knownHosts (written : List Text)
  | password (text : Text)
  | callerMethod (method : CallerMethod)
  | customDialer (dialer : CustomDialer)
  | connectLimit (span : Span)
  | proxyLimit (span : Span)
  | promptPassphrase (wanted : Bool)
  | homeDirectory (path : Path)
  | currentDirectory (path : Path)
deriving DecidableEq, Repr

end SecureShell
