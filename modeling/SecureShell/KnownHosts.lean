/-
Module: SecureShell.KnownHosts
Purpose: Whether the key that a host presents is trusted. A list of known hosts has a line for each key: the
  names of the host, a field that is not read, and the key in base64, with one space between them. A name
  may be hidden behind a salted digest. A list in which the host has another key of the same kind is a
  warning that the key has changed; a list that cannot be used says nothing.
Main exports: KnownHosts.lookupName, KnownHosts.Standing, KnownHosts.standing, HostKeyVerifier,
  HostKeyVerifier.create, HostKeyVerifier.trusts, HostKeyVerifier.summary
-/
import SecureShell.Digest.Sha1
import SecureShell.FileSystem.Basic
import SecureShell.Key.PublicKey
import SecureShell.Text.Summary

namespace SecureShell

namespace KnownHosts

/-- The port that needs no mention in a list. -/
def defaultPort : Port := 22

/-- The name under which a host is listed. -/
def lookupName (host : Text) (port : Port) : Text :=
  if port = defaultPort then host else "[".toList ++ host ++ "]:".toList ++ port.text

theorem lookupName_defaultPort (host : Text) : lookupName host 22 = host := rfl

/-- Behind any other port a host is listed in brackets, with the digits of the port. -/
theorem lookupName_otherPort (host : Text) {port : Port} (other : port ≠ 22) :
    lookupName host port =
      "[".toList ++ host ++ "]:".toList ++ Nat.toDigits 10 port.toNat :=
  if_neg other

/-- Whether a hidden name, given as its salt and its code in base64, is the one looked up. -/
def hiddenNameIs (name : Text) : (parts : List Text) → Bool
  | salt :: code :: _ =>
      match Base64.decode? salt, Base64.decode? code with
      | some salt, some code => Digest.Sha1.authenticate salt (Text.utf8 name) = code
      | _, _ => false
  | _ => false

/-- Whether an entry of the names field stands for the name looked up. -/
def entryIs (name entry : Text) : Bool :=
  match entry with
  | '|' :: '1' :: '|' :: parts => hiddenNameIs name (Text.segments '|' parts)
  | plain => plain = name

/-- What a line says about a name: nothing, that it has a key, or that it has one that is unreadable. -/
inductive LineRecord where
  | silent
  | recorded (key : PublicKey)
  | unreadable
deriving DecidableEq, Repr

/-- Reads a line, its line end included if there is one. -/
def lineRecord (name : Text) (line : Text) : LineRecord :=
  if line.head? = some '#' then .silent
  else
    match Text.segments ' ' line with
    | names :: _ :: encoded :: _ =>
        if (Text.segments ',' names).any (entryIs name) then
          match PublicKey.ofBase64? encoded with
          | some key => .recorded key
          | none => .unreadable
        else .silent
    | _ => .silent

/-- How a key stands in a list. -/
inductive Standing where
  | listed
  | unlisted
  | changed
  | unusable
deriving DecidableEq, Repr

/-- The keys that lines record, if all of them can be read. -/
def recordedKeys : List LineRecord → Option (List PublicKey)
  | [] => some []
  | .silent :: rest => recordedKeys rest
  | .recorded key :: rest => (recordedKeys rest).map (key :: ·)
  | .unreadable :: _ => none

/-- How a key stands among the recorded ones. A different key of the same kind outweighs an equal one. -/
def standingAmong (key : PublicKey) (recorded : List PublicKey) : Standing :=
  if recorded.any fun other => other.algorithm = key.algorithm && other ≠ key then .changed
  else if key ∈ recorded then .listed
  else .unlisted

/-- How a key stands in the text of a list. -/
def standingIn (name : Text) (key : PublicKey) (content : Text) : Standing :=
  match recordedKeys ((Text.segments '\n' content).map (lineRecord name)) with
  | some recorded => standingAmong key recorded
  | none => .unusable

/-- How a key stands in a file. -/
def standing (files : FileSystem) (name : Text) (key : PublicKey) (path : Path) : Standing :=
  match files.readText path with
  | .ok content => standingIn name key content
  | .error _ => .unusable

/-- The verdict over several lists: the first that lists the key accepts it, the first in which it has
changed rejects it, and a key that no list settles is rejected. -/
def verdict : List Standing → Bool
  | [] => false
  | .listed :: _ => true
  | .changed :: _ => false
  | .unlisted :: rest => verdict rest
  | .unusable :: rest => verdict rest

end KnownHosts

/-- Which host keys are trusted: any, or those that lists of known hosts accept. -/
inductive HostKeyPolicy where
  | acceptAny
  | knownHosts (lists : List Path)
deriving DecidableEq, Repr

/-- The policy for the key of one host. -/
structure HostKeyVerifier where
  host : Text
  port : Port
  policy : HostKeyPolicy
deriving DecidableEq, Repr

namespace HostKeyVerifier

/-- The first list that cannot be opened. -/
def firstUnopened (files : FileSystem) : List Path → Option (Path × SystemError)
  | [] => none
  | path :: rest =>
      match files.opened path with
      | .error cause => some (path, cause)
      | .ok _ => firstUnopened files rest

/-- A verifier for a host. Without lists any key is trusted; otherwise every list has to open. -/
def create (files : FileSystem) (host : Text) (port : Port) (lists : List Path) :
    Except (Path × SystemError) HostKeyVerifier :=
  match firstUnopened files lists with
  | some failure => .error failure
  | none => .ok ⟨host, port, if lists = [] then .acceptAny else .knownHosts lists⟩

/-- Whether a key is trusted. -/
def trusts (verifier : HostKeyVerifier) (files : FileSystem) (key : PublicKey) : Bool :=
  match verifier.policy with
  | .acceptAny => true
  | .knownHosts lists =>
      let name := KnownHosts.lookupName verifier.host verifier.port
      KnownHosts.verdict (lists.map (KnownHosts.standing files name key))

/-- A policy in a summary. -/
def policySummary : HostKeyPolicy → Text
  | .acceptAny => "AcceptAny".toList
  | .knownHosts lists =>
      Summary.tagged "KnownHosts".toList
        (Summary.list (lists.map fun path => Text.quoted path.text))

/-- A verifier in one line. -/
def summary (verifier : HostKeyVerifier) : Text :=
  Summary.record "HostKeyVerifier".toList
    [("host".toList, Text.quoted verifier.host),
      ("port".toList, verifier.port.text),
      ("policy".toList, policySummary verifier.policy)]

end HostKeyVerifier

end SecureShell
