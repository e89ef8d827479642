/-
Module: SecureShell.Connection.Authentication
Purpose: Which methods of authentication a connection uses, and in which order. The keys of the agent take
  the place of the decoded keys when the agent has any; the password comes next, and the methods of the
  caller come last. A method may stand for several attempts, and decoded keys are offered only once the
  peer has said which digest it prefers for signatures. The first accepted attempt ends the matter. An
  agent key that cannot be used only leads to the next attempt, but any other attempt that fails ends the
  run.
Main exports: Method, selectMethods, agentKeys, authenticate
-/
import SecureShell.Connection.Destination
import SecureShell.Connection.Run

namespace SecureShell

variable {σ : Type}

/-- A method of authentication with everything that it offers. -/
inductive Method where
  | agent (identities : List PublicKey)
  | signers (keys : List SigningKey)
  | password (text : Text)
  | caller (method : CallerMethod)
deriving DecidableEq, Repr

/-- The method that uses keys, if there are any: those of the agent, or else the decoded ones. -/
def keyMethod : (identities : List PublicKey) → (signers : List SigningKey) → List Method
  | [], [] => []
  | [], signer :: others => [.signers (signer :: others)]
  | identity :: others, _ => [.agent (identity :: others)]

/-- The methods of a connection in order. -/
def selectMethods (identities : List PublicKey) (signers : List SigningKey)
    (password : Option Text) (callerMethods : List CallerMethod) : List Method :=
  keyMethod identities signers ++ password.toList.map Method.password
    ++ callerMethods.map Method.caller

/-- The keys that an agent lists at a socket. -/
def listedKeys (around : Surroundings σ) (socket : Path) : Run σ (List PublicKey) := do
  match ← Run.ask (around.reachAgent socket) with
  | .error cause => Run.fail (.agentUnreachable socket cause)
  | .ok _ =>
      match ← Run.ask around.listAgentKeys with
      | .error cause => Run.fail (.agentUnlisted cause)
      | .ok keys => do
          Run.record (.agentListed keys)
          pure keys

/-- The keys of the agent, if an agent is wanted and its socket is known. -/
def agentKeys (around : Surroundings σ) (destination : Destination) : Run σ (List PublicKey) :=
  match destination.agentSocket, destination.useAgent with
  | some socket, true => listedKeys around socket
  | _, _ => pure []

/-- The end of a connection by the fault of an attempt. A fault of the session breaks it. -/
def Attempt.failure : (attempt : Attempt) → attempt.Fault → ConnectionFailure
  | .agentKey _, fault => .brokenSession fault
  | .signingKey _ _, fault => .brokenSession fault
  | .password _, fault => .brokenSession fault
  | .callerMethod _, failure => failure

/-- What an answer to an attempt comes to. -/
def Attempt.outcome (attempt : Attempt) : AttemptAnswer attempt.Fault → AttemptOutcome
  | .accepted => .accepted
  | .rejected => .rejected
  | .failed fault => .failed (attempt.failure fault)
  | .silent => .silent

/-- Makes one attempt, which is seen from outside whatever its answer is. -/
def tryAttempt (around : Surroundings σ) (user : Text) (attempt : Attempt) :
    Run σ AttemptOutcome := do
  Run.record (.attempted attempt)
  let answer ← Run.ask (around.attempt user attempt)
  pure (attempt.outcome answer)

/-- Offers the keys of an agent in order. One that cannot be used is passed over. -/
def offerIdentities (around : Surroundings σ) (user : Text) :
    List PublicKey → Run σ AttemptOutcome
  | [] => pure .rejected
  | key :: rest => do
      match ← tryAttempt around user (.agentKey key) with
      | .accepted => pure .accepted
      | .rejected => offerIdentities around user rest
      | .failed _ => offerIdentities around user rest
      | .silent => pure .silent

/-- Offers decoded keys in order, each with the digest to sign by. -/
def offerSigners (around : Surroundings σ) (user : Text) (hash : Option SignatureHash) :
    List SigningKey → Run σ AttemptOutcome
  | [] => pure .rejected
  | key :: rest => do
      match ← tryAttempt around user (.signingKey key hash) with
      | .accepted => pure .accepted
      | .rejected => offerSigners around user hash rest
      | .failed cause => pure (.failed cause)
      | .silent => pure .silent

/-- Offers decoded keys once the peer has said which digest it prefers. Without an answer none of them is
offered. -/
def useSigners (around : Surroundings σ) (user : Text) (keys : List SigningKey) :
    Run σ AttemptOutcome := do
  match ← Run.ask around.signatureHash with
  | .told hash => offerSigners around user hash keys
  | .broken fault => pure (.failed (.brokenSession fault))
  | .silent => pure .silent

/-- Uses a method, and tells what its last attempt has come to. -/
def Method.use (around : Surroundings σ) (user : Text) : Method → Run σ AttemptOutcome
  | .agent identities => offerIdentities around user identities
  | .signers keys => useSigners around user keys
  | .password text => tryAttempt around user (.password text)
  | .caller method => tryAttempt around user (.callerMethod method)

/-- Uses methods in order until one is accepted. `expire` is what happens when no answer comes. -/
def authenticate (around : Surroundings σ) (user : Text) (expire : Run σ Unit) :
    List Method → Run σ Unit
  | [] => Run.fail .authenticationFailed
  | method :: rest => do
      match ← method.use around user with
      | .accepted => pure ()
      | .rejected => authenticate around user expire rest
      | .failed cause => Run.fail cause
      | .silent => expire

end SecureShell
