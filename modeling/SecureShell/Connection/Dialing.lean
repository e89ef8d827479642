/-
Module: SecureShell.Connection.Dialing
Purpose: The steps by which a connection is opened, strictly in this order: decode the keys, ask the agent,
  open the lists of known hosts, resolve the proxy command, open the stream or start the proxy, shake
  hands and check the host key, authenticate. The first step that fails ends the run. A connection that
  stays without an answer fails by its limit; a proxy whose limit runs out is killed and reaped.
Main exports: Session, dial, connect
-/
import SecureShell.Config.Resolution
import SecureShell.Connection.Authentication
import SecureShell.Connection.KeyLoading
import SecureShell.KnownHosts

namespace SecureShell

/-- An open connection; with a proxy it knows the process of the proxy. -/
structure Session where
  proxyProcess : Option Nat
deriving DecidableEq, Repr

/-- What the steps after the proxy command need to know. -/
structure Prepared where
  verifier : HostKeyVerifier
  methods : List Method
  proxyLine : Option Text
deriving DecidableEq, Repr

variable {σ : Type}

/-- The verifier of the host key, with every list of known hosts opened. -/
def openHostLists (around : Surroundings σ) (destination : Destination) : Run σ HostKeyVerifier :=
  match HostKeyVerifier.create around.files destination.hostname destination.port
      destination.knownHosts with
  | .error refusal => Run.fail (.unopenedKnownHosts refusal.1 refusal.2)
  | .ok verifier => do
      Run.record (.hostListsOpened destination.knownHosts)
      pure verifier

/-- The command of the proxy, if the destination has one. -/
def resolveProxy (destination : Destination) : Run σ (Option Text) :=
  match destination.proxy with
  | none => pure none
  | some proxy =>
      match proxy.commandFor destination.user destination.port destination.hostname with
      | .error cause => Run.fail (.configuration cause)
      | .ok line => do
          Run.record (.proxyResolved line)
          pure (some line)

/-- Everything that comes before the first contact with the peer. -/
def prepare (around : Surroundings σ) (destination : Destination) : Run σ Prepared := do
  let signingKeys ← loadKeys around destination.promptPassphrase destination.keys
  let agentKeys ← agentKeys around destination
  let verifier ← openHostLists around destination
  let proxyLine ← resolveProxy destination
  let methods :=
    selectMethods agentKeys signingKeys destination.password destination.callerMethods
  pure ⟨verifier, methods, proxyLine⟩

/-- Shakes hands with the peer and checks its host key. -/
def shakeHands (around : Surroundings σ) (destination : Destination) (verifier : HostKeyVerifier)
    (expire : Run σ Unit) : Run σ Unit := do
  match ← Run.ask around.greet with
  | .silent => expire
  | .breaks fault => Run.fail (.brokenSession fault)
  | .presents key =>
      let trusted := verifier.trusts around.files key
      Run.record (.hostKeyChecked key trusted)
      if trusted then
        match ← Run.ask around.agree with
        | .reached => pure ()
        | .breaks fault => Run.fail (.brokenSession fault)
        | .silent => expire
      else Run.fail (.hostKeyRejected destination.hostname destination.port)

/-- Shakes hands and authenticates on an open stream. -/
def establish (around : Surroundings σ) (destination : Destination) (prepared : Prepared)
    (expire : Run σ Unit) : Run σ Unit := do
  shakeHands around destination prepared.verifier expire
  authenticate around destination.user expire prepared.methods

/-- Why a stream to the destination cannot be opened. -/
def streamFailure (destination : Destination) (cause : SystemError) : ConnectionFailure :=
  if destination.customDialer.isSome then
    .dialerFailed destination.hostname destination.port cause
  else .unreachable destination.hostname destination.port cause

/-- Connects without a proxy. A limit of no length leaves no time to wait for the peer. -/
def connectDirectly (around : Surroundings σ) (destination : Destination) (prepared : Prepared) :
    Run σ Session := do
  let expire : Run σ Unit := Run.fail (.connectTimeout destination.connectLimit)
  Run.record (.streamRequested destination.hostname destination.port)
  match ← Run.ask (around.openStream destination.customDialer destination.hostname
      destination.port) with
  | .refused cause => Run.fail (streamFailure destination cause)
  | .silent => expire
  | .opened =>
      if destination.connectLimit = .zero then expire
      else establish around destination prepared expire
  pure ⟨none⟩

/-- What happens to a proxy whose limit runs out. -/
def abandonProxy (around : Surroundings σ) (limit : Span) : Run σ Unit := do
  Run.change around.killProxy
  Run.record .proxyKilled
  Run.record .proxyReaped
  Run.fail (.proxyTimeout limit)

/-- Connects through a proxy command. -/
def connectThrough (around : Surroundings σ) (destination : Destination) (prepared : Prepared)
    (line : Text) : Run σ Session := do
  Run.record (.proxyRequested line destination.proxyDirectory)
  match ← Run.ask (around.startProxy line destination.proxyDirectory destination.proxyLimit) with
  | .error cause => Run.fail (.proxyNotStarted line cause)
  | .ok process => do
      Run.record (.proxyStarted process)
      establish around destination prepared (abandonProxy around destination.proxyLimit)
      pure ⟨some process⟩

/-- Opens the connection that a destination describes. -/
def dial (around : Surroundings σ) (destination : Destination) : Run σ Session := do
  let prepared ← prepare around destination
  match prepared.proxyLine with
  | none => connectDirectly around destination prepared
  | some line => connectThrough around destination prepared line

/-- Opens a connection to a host as a configuration says. -/
def Configuration.connect (around : Surroundings σ) (configuration : Configuration) (host : Text) :
    Run σ Session :=
  match configuration.destination around.files host with
  | .error cause => Run.fail (.configuration cause)
  | .ok destination => dial around destination

/-- Builds a configuration and opens a connection to a host with it. -/
def connect (around : Surroundings σ) (environment : Environment) (preferences : List Preference)
    (host : Text) : Run σ Session :=
  match Configuration.build around.files environment preferences with
  | .error cause => Run.fail (.configuration cause)
  | .ok configuration => configuration.connect around host

namespace Session

/-- A connection in one line. -/
def summary (session : Session) : Text :=
  Summary.record "Client".toList
    [("handle".toList, Text.quoted "<russh::Handle>".toList),
      ("proxy_pid".toList, Summary.optional (session.proxyProcess.map Text.decimal))]

/-- Whether a connection goes through a proxy. -/
def isProxied (session : Session) : Bool :=
  session.proxyProcess.isSome

end Session

end SecureShell
