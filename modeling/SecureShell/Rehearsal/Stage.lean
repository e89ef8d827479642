/-
Module: SecureShell.Rehearsal.Stage
Purpose: Surroundings in which everybody plays the part that a scene gives them, so that a connection can be
  rehearsed from the first key to the last command. After an agent has refused to sign, no attempt that
  the peer has to judge is answered any more; a method of the caller that settles the matter by itself
  needs no peer. The command of a proxy may be any script, so the shell that runs it is played out whole,
  with the programs that scripts call.
Main exports: Stage, Stage.start, surroundings
-/
import SecureShell.Rehearsal.Cast
import SecureShell.Rehearsal.Shell.Evaluation
import SecureShell.Rehearsal.Terminal

namespace SecureShell.Rehearsal

/-- What the stream of a connection leads to. -/
inductive Line where
  | peer
  | nobody
  | stalled
deriving DecidableEq, Repr

/-- How far a session with the peer has come. -/
inductive Standing where
  | stranger
  | admitted
  | ended
deriving DecidableEq, Repr

/-- A rehearsal at one moment: what is still typed at the terminal, what it has printed, what has been
logged, where the stream leads, whether the session waits for a signature that never comes, and how far
the peer has let the caller in. -/
structure Stage where
  typed : Text
  printed : Text
  log : List LogEntry
  line : Line
  awaitsSignature : Bool
  standing : Standing
deriving DecidableEq, Repr

namespace Stage

/-- The beginning of a rehearsal, with what is going to be typed. -/
def start (typed : Text) : Stage :=
  ⟨typed, [], [], .nobody, false, .stranger⟩

/-- The stage after an entry in the log. -/
def note (stage : Stage) (entry : LogEntry) : Stage :=
  { stage with log := stage.log ++ [entry] }

/-- The stage after something has been printed. -/
def print (stage : Stage) (text : Text) : Stage :=
  { stage with printed := stage.printed ++ text }

/-- The stage after the peer's verdict on an attempt. -/
def judged {φ : Type} (stage : Stage) (accepted : Bool) : AttemptAnswer φ × Stage :=
  if accepted then (.accepted, { stage with standing := .admitted }) else (.rejected, stage)

end Stage

/-- A prompt at the terminal, and what is read there. -/
def askTerminal (prompt : Text) (stage : Stage) : Except SystemError Text × Stage :=
  let stage := stage.print prompt
  match Terminal.readLine stage.typed with
  | .line text screen rest => (.ok text, { stage with typed := rest }.print screen)
  | .ended screen rest => (.error .endOfInput, { stage with typed := rest }.print screen)

/-- What the agent answers to the question for its keys. -/
def listKeys (agent : Agent) (stage : Stage) : Except SystemError (List PublicKey) × Stage :=
  let stage := stage.note .agentListed
  match agent.listing with
  | .lists => (.ok agent.keys, stage)
  | .fails => (.ok [], stage)
  | .hangsUp => (.error (.reported "early eof".toList), stage)

/-- What opening a stream comes to. -/
def openThrough (dialer : Dialer) (stage : Stage) : StreamAnswer × Stage :=
  match dialer with
  | .connects => (.opened, { stage with line := .peer })
  | .hangs => (.silent, stage)
  | .refuses cause => (.refused cause, stage)

/-- Opens a stream with a custom dialer, which keeps a log, or over the network. -/
def openStream (scene : Scene) (dialer : Option CustomDialer) (host : Text) (port : Port)
    (stage : Stage) : StreamAnswer × Stage :=
  match dialer with
  | some _ => openThrough scene.dialer (stage.note (.dialed host port))
  | none => openThrough scene.network stage

/-- The process number that every proxy has. -/
def proxyProcess : Nat := 1

/-- What the stream of a proxy leads to. -/
def lineAfter : Shell.Ending → Line
  | .connected => .peer
  | .silent => .stalled
  | .ended => .nobody

/-- The stage after the script of a proxy has been run. -/
def afterScript (performance : Shell.Performance) (stage : Stage) : Stage :=
  let entries := performance.calls.map fun call => LogEntry.proxied call.words call.directory
  { stage with log := stage.log ++ entries, line := lineAfter performance.ending }

/-- Starts a proxy in a directory. A null character cannot be handed to a process, nor can a text that is too
long. -/
def startProxy (scene : Scene) (line : Text) (directory : Path) (limit : Span)
    (stage : Stage) : Except SystemError Nat × Stage :=
  if '\x00' ∈ line then (.error .nullInArgument, stage)
  else
    match scene.tree.enter scene.working directory with
    | .error cause => (.error cause, stage)
    | .ok place =>
        if Shell.argumentLimit ≤ (Text.utf8 line).length then (.error .argumentTooLong, stage)
        else
          (.ok proxyProcess,
            afterScript (Shell.perform scene.tree place scene.parameters limit line) stage)

/-- The first that is heard from the other end of the stream. -/
def greeting (scene : Scene) (stage : Stage) : Greeting × Stage :=
  match stage.line with
  | .stalled => (.silent, stage)
  | .nobody => (.breaks .disconnected, stage)
  | .peer =>
      match scene.peer.conduct with
      | .serves => (.presents scene.peer.hostKey, stage)
      | .hangs => (.silent, stage)
      | .drops => (.breaks .disconnected, stage)

/-- Offers a key to the peer. -/
def tryKey {φ : Type} (scene : Scene) (user : Text) (key : PublicKey) (stage : Stage) :
    AttemptAnswer φ × Stage :=
  let accepted := scene.peer.acceptsKey user key
  (stage.note (.keyTried user key accepted)).judged accepted

/-- Offers a password to the peer. -/
def tryPassword {φ : Type} (scene : Scene) (user password : Text) (stage : Stage) :
    AttemptAnswer φ × Stage :=
  let accepted := scene.peer.acceptsPassword user password
  (stage.note (.passwordTried user password accepted)).judged accepted

/-- Offers a key of the agent, which has to sign for it. -/
def tryAgentKey (scene : Scene) (user : Text) (key : PublicKey) (stage : Stage) :
    AttemptAnswer SessionFault × Stage :=
  if scene.agent.refused.contains key then
    (.failed (.reported "Agent failure".toList),
      { stage.note (.agentSigned key false) with awaitsSignature := true })
  else tryKey scene user key (stage.note (.agentSigned key true))

/-- Lets a method of the caller do what it does. -/
def callMethod (scene : Scene) (user : Text) (method : CallerMethod) (stage : Stage) :
    AttemptOutcome × Stage :=
  let stage := stage.note (.methodCalled method.name user)
  match method.action with
  | .accept => (.accepted, stage)
  | .reject => (.rejected, stage)
  | .fail => (.failed (.methodFailed method.name), stage)
  | .tryPassword password =>
      if stage.awaitsSignature then (.silent, stage) else tryPassword scene user password stage

/-- Tells the peer's preference for signatures, which makes no difference to the keys of a ring. -/
def tellHash (stage : Stage) : HashAnswer × Stage :=
  (if stage.awaitsSignature then .silent else .told none, stage)

/-- Makes one attempt. -/
def makeAttempt (scene : Scene) (user : Text) (attempt : Attempt) (stage : Stage) :
    AttemptAnswer attempt.Fault × Stage :=
  match attempt with
  | .callerMethod method => callMethod scene user method stage
  | .agentKey key =>
      if stage.awaitsSignature then (.silent, stage) else tryAgentKey scene user key stage
  | .signingKey key _ =>
      if stage.awaitsSignature then (.silent, stage) else tryKey scene user key.publicKey stage
  | .password text =>
      if stage.awaitsSignature then (.silent, stage) else tryPassword scene user text stage

/-- Asks for a channel. Who has not been let in loses the session over it. -/
def askChannel (scene : Scene) (stage : Stage) : ChannelAnswer × Stage :=
  match stage.standing with
  | .ended => (.faulty .ended, stage)
  | .stranger => (.faulty .disconnected, { stage with standing := .ended })
  | .admitted =>
      let granted := scene.peer.grantsSessions
      (if granted then .granted else .faulty .channelRefused, stage.note (.sessionRequested granted))

/-- Runs a command, after whose messages the channel stays open. -/
def runLine (scene : Scene) (line : Text) (stage : Stage) :
    Except SessionFault (List ChannelMessage × StreamEnd) × Stage :=
  (.ok (scene.peer.answer line, .silent), stage.note (.commandRun line))

/-- The surroundings of a rehearsal. -/
def surroundings (scene : Scene) : Surroundings Stage where
  files := scene.files
  decodeKey := decodeOnRing scene.ring
  askPassphrase := askTerminal
  reachAgent socket stage := (scene.tree.socket scene.working socket, stage)
  listAgentKeys := listKeys scene.agent
  openStream := openStream scene
  startProxy := startProxy scene
  greet := greeting scene
  agree stage := (.reached, stage)
  signatureHash := tellHash
  attempt := makeAttempt scene
  killProxy stage := { stage with line := .nobody }
  proxyExited stage := stage.line = .nobody
  requestChannel := askChannel scene
  runCommand := runLine scene
  isEnded stage := stage.standing = .ended
  leave stage := (if stage.standing = .ended then .error .ended else .ok (), stage)

end SecureShell.Rehearsal
