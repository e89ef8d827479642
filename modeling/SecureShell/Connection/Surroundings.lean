/-
Module: SecureShell.Connection.Surroundings
Purpose: What a connection meets on its way: the file system, the decoder of private keys, the terminal,
  the agent, the network, the proxy and the peer. They are a record of answers over a state of their own,
  so that a statement about every agent and every peer, also one that changes its mind, is one about every
  such record. Nothing measures time here: an answer may be that nothing comes in time.
Main exports: SignatureHash, HashAnswer, Attempt, Attempt.Fault, AttemptAnswer, AttemptOutcome, StreamAnswer,
  Greeting, Agreement, ChannelAnswer, ChannelMessage, StreamEnd, Surroundings, Surroundings.deserted, Event
-/
import SecureShell.Connection.CallerMethod
import SecureShell.Connection.Failure
import SecureShell.FileSystem.Basic

namespace SecureShell

/-- A digest for the signatures of a key that leaves the choice open. -/
inductive SignatureHash where
  | sha256
  | sha512
deriving DecidableEq, Repr

/-- How the question ends which digest a peer prefers for signatures. -/
inductive HashAnswer where
  | told (hash : Option SignatureHash)
  | broken (fault : SessionFault)
  | silent
deriving DecidableEq, Repr

/-- One attempt to authenticate. A decoded key is offered with the digest to sign by. -/
inductive Attempt where
  | agentKey (key : PublicKey)
  | signingKey (key : SigningKey) (hash : Option SignatureHash)
  | password (text : Text)
  | callerMethod (method : CallerMethod)
deriving DecidableEq, Repr

/-- The ways in which an attempt can fail. A method of the caller may fail in any way, everything else
only by a fault of the session. -/
abbrev Attempt.Fault : Attempt → Type
  | .callerMethod _ => ConnectionFailure
  | _ => SessionFault

/-- How an attempt ends that can fail in certain ways. -/
inductive AttemptAnswer (φ : Type) where
  | accepted
  | rejected
  | failed (fault : φ)
  | silent
deriving DecidableEq, Repr

/-- What an attempt comes to for the connection, which it can end by any failure. -/
abbrev AttemptOutcome := AttemptAnswer ConnectionFailure

/-- How the opening of a stream ends. -/
inductive StreamAnswer where
  | opened
  | refused (cause : SystemError)
  | silent
deriving DecidableEq, Repr

/-- What the other end of a stream does first. -/
inductive Greeting where
  | presents (hostKey : PublicKey)
  | breaks (fault : SessionFault)
  | silent
deriving DecidableEq, Repr

/-- How a handshake goes on after the host key has been accepted. -/
inductive Agreement where
  | reached
  | breaks (fault : SessionFault)
  | silent
deriving DecidableEq, Repr

/-- How the request for a channel ends. -/
inductive ChannelAnswer where
  | granted
  | faulty (fault : SessionFault)
  | silent
deriving DecidableEq, Repr

/-- The kind of extended data that carries errors. -/
def errorStream : UInt32 := 1

/-- A message on the channel of a command. -/
inductive ChannelMessage where
  | data (bytes : Bytes)
  | extendedData (kind : UInt32) (bytes : Bytes)
  | exitStatus (status : UInt32)
  | endOfData
  | close
  | other
deriving DecidableEq, Repr

/-- What comes behind the last message of a channel: the end of the stream, or nothing. -/
inductive StreamEnd where
  | ended
  | silent
deriving DecidableEq, Repr

/-- Everything that a connection depends on and does not decide, over a state of its own. A limit tells for
how long the connection waits for a proxy; whether a proxy has exited by itself is seen in the state. -/
structure Surroundings (σ : Type) where
  files : FileSystem
  decodeKey : (text : Text) → (passphrase : Option Text) → Except KeyFault SigningKey
  askPassphrase : (prompt : Text) → σ → Except SystemError Text × σ
  reachAgent : (socket : Path) → σ → Except SystemError Unit × σ
  listAgentKeys : σ → Except SystemError (List PublicKey) × σ
  openStream : (dialer : Option CustomDialer) → (host : Text) → (port : Port) → σ → StreamAnswer × σ
  startProxy : (line : Text) → (directory : Path) → (limit : Span) → σ →
    Except SystemError Nat × σ
  greet : σ → Greeting × σ
  agree : σ → Agreement × σ
  signatureHash : σ → HashAnswer × σ
  attempt : (user : Text) → (attempt : Attempt) → σ → AttemptAnswer attempt.Fault × σ
  killProxy : σ → σ
  proxyExited : σ → Bool
  requestChannel : σ → ChannelAnswer × σ
  runCommand : (line : Text) → σ → Except SessionFault (List ChannelMessage × StreamEnd) × σ
  isEnded : σ → Bool
  leave : σ → Except SessionFault Unit × σ

/-- Surroundings in which nobody answers. Others are made of them by putting answers in. -/
def Surroundings.deserted {σ : Type} : Surroundings σ where
  files :=
    { read _ := .error .notFound
      present _ := false
      opened _ := .error .notFound
      entered _ := .error .notFound }
  decodeKey _ _ := .error .unrecognized
  askPassphrase _ state := (.error .endOfInput, state)
  reachAgent _ state := (.error .notFound, state)
  listAgentKeys state := (.error .endOfInput, state)
  openStream _ _ _ state := (.silent, state)
  startProxy _ _ _ state := (.error .notFound, state)
  greet state := (.silent, state)
  agree state := (.silent, state)
  signatureHash state := (.silent, state)
  attempt _ _ state := (.silent, state)
  killProxy state := state
  proxyExited _ := true
  requestChannel state := (.silent, state)
  runCommand _ state := (.error .ended, state)
  isEnded _ := true
  leave state := (.error .ended, state)

/-- What is seen of a connection from outside, in the order in which it happens. -/
inductive Event where
  | passphraseAsked (label : Text)
  | keyDecoded (key : SigningKey)
  | agentListed (keys : List PublicKey)
  | hostListsOpened (lists : List Path)
  | proxyResolved (line : Text)
  | streamRequested (host : Text) (port : Port)
  | proxyRequested (line : Text) (directory : Path)
  | proxyStarted (process : Nat)
  | hostKeyChecked (key : PublicKey) (trusted : Bool)
  | attempted (attempt : Attempt)
  | proxyKilled
  | proxyReaped
deriving DecidableEq, Repr

end SecureShell
