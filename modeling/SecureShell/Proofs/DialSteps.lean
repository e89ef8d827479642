/-
Module: SecureShell.Proofs.DialSteps
Purpose: A dial as a machine that goes from point to point, one step at a time. A point holds what the
  steps before it have found. The machine and `dial` are the same run, so that a property of a dial is a
  property of every point that the machine reaches and of every single step.
Main exports: Dial.Step, Dial.Point, Dial.Point.perform, Dial.Reaches, Dial.dial_of_failure,
  Dial.dial_of_connected, Dial.dial_cases
-/
import SecureShell.Connection.Dialing
import SecureShell.Proofs.RunLaws

namespace SecureShell.Dial

/-- The steps of a dial. Behind the last of them there is nothing left to do. -/
inductive Step where
  | keys
  | agent
  | hostLists
  | proxyCommand
  | opening
  | handshake
  | authentication
  | connected
deriving DecidableEq, Repr

/-- The place of a step in the order. -/
def Step.rank : Step → Nat
  | .keys => 0
  | .agent => 1
  | .hostLists => 2
  | .proxyCommand => 3
  | .opening => 4
  | .handshake => 5
  | .authentication => 6
  | .connected => 7

/-- Where a dial stands, with what it has found so far. -/
inductive Point where
  | keys
  | agent (signers : List SigningKey)
  | hostLists (signers : List SigningKey) (identities : List PublicKey)
  | proxyCommand (signers : List SigningKey) (identities : List PublicKey)
      (verifier : HostKeyVerifier)
  | opening (prepared : Prepared)
  | handshake (prepared : Prepared) (process : Option Nat)
  | authentication (prepared : Prepared) (process : Option Nat)
  | connected (session : Session)

/-- The step that comes next at a point. -/
def Point.step : Point → Step
  | .keys => .keys
  | .agent _ => .agent
  | .hostLists _ _ => .hostLists
  | .proxyCommand _ _ _ => .proxyCommand
  | .opening _ => .opening
  | .handshake _ _ => .handshake
  | .authentication _ _ => .authentication
  | .connected _ => .connected

variable {σ : Type}

/-- What happens when the time limit of a dial runs out. -/
def expire (around : Surroundings σ) (destination : Destination) : Option Text → Run σ Unit
  | none => Run.fail (.connectTimeout destination.connectLimit)
  | some _ => abandonProxy around destination.proxyLimit

/-- Opens the stream, or starts the proxy and tells its process. -/
def openConnection (around : Surroundings σ) (destination : Destination) :
    Option Text → Run σ (Option Nat)
  | none => do
      Run.record (.streamRequested destination.hostname destination.port)
      match ← Run.ask (around.openStream destination.customDialer destination.hostname
          destination.port) with
      | .refused cause => Run.fail (streamFailure destination cause)
      | .silent => Run.fail (.connectTimeout destination.connectLimit)
      | .opened =>
          if destination.connectLimit = .zero then
            Run.fail (.connectTimeout destination.connectLimit)
          else pure none
  | some line => do
      Run.record (.proxyRequested line destination.proxyDirectory)
      match ← Run.ask (around.startProxy line destination.proxyDirectory
          destination.proxyLimit) with
      | .error cause => Run.fail (.proxyNotStarted line cause)
      | .ok process => do
          Run.record (.proxyStarted process)
          pure (some process)

/-- Takes the step of a point. Nothing happens any more once there is a connection. -/
def Point.perform (around : Surroundings σ) (destination : Destination) : Point → Run σ Point
  | .keys => do
      let signers ← loadKeys around destination.promptPassphrase destination.keys
      pure (.agent signers)
  | .agent signers => do
      let identities ← agentKeys around destination
      pure (.hostLists signers identities)
  | .hostLists signers identities => do
      let verifier ← openHostLists around destination
      pure (.proxyCommand signers identities verifier)
  | .proxyCommand signers identities verifier => do
      let proxyLine ← resolveProxy destination
      let methods :=
        selectMethods identities signers destination.password destination.callerMethods
      pure (.opening ⟨verifier, methods, proxyLine⟩)
  | .opening prepared => do
      let process ← openConnection around destination prepared.proxyLine
      pure (.handshake prepared process)
  | .handshake prepared process => do
      shakeHands around destination prepared.verifier
        (expire around destination prepared.proxyLine)
      pure (.authentication prepared process)
  | .authentication prepared process => do
      authenticate around destination.user (expire around destination prepared.proxyLine)
        prepared.methods
      pure (.connected ⟨process⟩)
  | .connected session => pure (.connected session)

/-- Takes a number of steps, unless one of them fails. -/
def advance (around : Surroundings σ) (destination : Destination) : Nat → Point → Run σ Point
  | 0, point => pure point
  | steps + 1, point => do
      let next ← point.perform around destination
      advance around destination steps next

/-- The points that a dial gets to, with the events on the way and the state in which it arrives. -/
inductive Reaches (around : Surroundings σ) (destination : Destination) (start : σ) :
    Point → List Event → σ → Prop where
  | start : Reaches around destination start .keys [] start
  | next {point later : Point} {events more : List Event} {state after : σ}
      (before : Reaches around destination start point events state)
      (step : point.perform around destination state = ⟨.ok later, more, after⟩) :
      Reaches around destination start later (events ++ more) after

variable {around : Surroundings σ} {destination : Destination} {start : σ}

/-- Connecting directly opens the stream, shakes hands and authenticates. -/
theorem connectDirectly_eq (prepared : Prepared) :
    connectDirectly around destination prepared = (do
      let process ← openConnection around destination none
      establish around destination prepared (expire around destination none)
      pure ⟨process⟩) := by
  funext state
  simp only [connectDirectly, openConnection, expire, bind_assoc, Run.record_bind, Run.ask_bind]
  cases (around.openStream destination.customDialer destination.hostname
    destination.port state).1 with
  | opened =>
      by_cases instant : destination.connectLimit = .zero
      · simp only [instant, if_true]
        rfl
      · simp only [instant, if_false, pure_bind]
  | refused cause => rfl
  | silent => rfl

/-- Connecting through a proxy starts it, shakes hands and authenticates. -/
theorem connectThrough_eq (prepared : Prepared) (line : Text) :
    connectThrough around destination prepared line = (do
      let process ← openConnection around destination (some line)
      establish around destination prepared (expire around destination (some line))
      pure ⟨process⟩) := by
  funext state
  simp only [connectThrough, openConnection, expire, bind_assoc, Run.record_bind, Run.ask_bind]
  cases (around.startProxy line destination.proxyDirectory destination.proxyLimit state).1 with
  | error cause => rfl
  | ok process => simp only [bind_assoc, pure_bind]

/-- A dial prepares, opens a stream, shakes hands and authenticates, whether there is a proxy or not. -/
theorem dial_eq :
    dial around destination = (do
      let prepared ← prepare around destination
      let process ← openConnection around destination prepared.proxyLine
      establish around destination prepared (expire around destination prepared.proxyLine)
      pure ⟨process⟩) := by
  refine congrArg (prepare around destination >>= ·) (funext fun prepared => ?_)
  rcases prepared with ⟨verifier, methods, none | line⟩
  · exact connectDirectly_eq _
  · exact connectThrough_eq _ line

/-- The machine, taken as far as it goes, is the dial. -/
theorem advance_eq_dial :
    advance around destination 7 .keys = (do
      let session ← dial around destination
      pure (.connected session)) := by
  simp only [dial_eq, prepare, establish, advance, Point.perform, bind_assoc, pure_bind]

/-- A step leads to the next one in the order, and a connection stays what it is. -/
theorem Point.perform_ok {point later : Point} {state after : σ} {events : List Event}
    (step : point.perform around destination state = ⟨.ok later, events, after⟩) :
    later.step.rank = point.step.rank + 1 ∨
      (point.step = .connected ∧ later = point ∧ events = [] ∧ after = state) := by
  cases point with
  | connected session =>
      cases step
      exact .inr ⟨rfl, rfl, rfl, rfl⟩
  | _ =>
      obtain ⟨_, _, rfl⟩ := Run.ok_of_bind_pure step
      exact .inl rfl

/-- Only a step that has not led to a connection yet can fail. -/
theorem Point.rank_of_failure {point : Point} {state after : σ} {failure : ConnectionFailure}
    {events : List Event}
    (step : point.perform around destination state = ⟨.error failure, events, after⟩) :
    point.step.rank < 7 := by
  cases point with
  | connected session => cases step
  | _ => simp [Point.step, Step.rank]

/-- The machine that has reached a point goes on from there. -/
theorem Reaches.advance_add {point : Point} {events : List Event} {state : σ}
    (reached : Reaches around destination start point events state) (steps : Nat) :
    advance around destination (point.step.rank + steps) .keys start =
      (advance around destination steps point state).after events := by
  induction reached generalizing steps with
  | start => simp [Point.step, Step.rank]
  | @next point later events more state after before step ih =>
      rcases Point.perform_ok step with forward | ⟨_, rfl, rfl, rfl⟩
      · calc
          advance around destination (later.step.rank + steps) .keys start
              = advance around destination (point.step.rank + (steps + 1)) .keys start := by
                rw [forward, Nat.add_assoc, Nat.add_comm 1]
          _ = (advance around destination (steps + 1) point state).after events :=
                ih (steps + 1)
          _ = ((advance around destination steps later after).after more).after events := by
                rw [advance, Run.bind_of_ok step]
          _ = (advance around destination steps later after).after (events ++ more) :=
                Report.after_after _ _ _
      · rw [ih steps, List.append_nil]

/-- The first step that fails ends the dial, and the failure is that of the dial. -/
theorem dial_of_failure {point : Point} {events more : List Event} {state last : σ}
    {failure : ConnectionFailure}
    (reached : Reaches around destination start point events state)
    (step : point.perform around destination state = ⟨.error failure, more, last⟩) :
    dial around destination start = ⟨.error failure, events ++ more, last⟩ := by
  obtain ⟨steps, count⟩ := Nat.exists_eq_add_of_lt (Point.rank_of_failure step)
  have machine := reached.advance_add (steps + 1)
  rw [← Nat.add_assoc, ← count, advance_eq_dial, advance, Run.bind_of_error step] at machine
  exact Run.error_of_bind_pure machine

/-- The connection that the machine reaches is that of the dial. -/
theorem dial_of_connected {session : Session} {events : List Event} {state : σ}
    (reached : Reaches around destination start (.connected session) events state) :
    dial around destination start = ⟨.ok session, events, state⟩ := by
  have machine := reached.advance_add 0
  simp only [Point.step, Step.rank, Nat.add_zero, advance_eq_dial, advance, Run.pure_apply,
    Report.after, List.append_nil] at machine
  obtain ⟨value, ended, same⟩ := Run.ok_of_bind_pure machine
  cases same
  exact ended

/-- What some steps lead to is reached. -/
theorem Reaches.of_advance (steps : Nat) {point later : Point} {events more : List Event}
    {state after : σ} (reached : Reaches around destination start point events state)
    (advanced : advance around destination steps point state = ⟨.ok later, more, after⟩) :
    Reaches around destination start later (events ++ more) after := by
  induction steps generalizing point events more state with
  | zero =>
      cases advanced
      simpa using reached
  | succ steps ih =>
      obtain ⟨next, before, between, rest, performed, tail, rfl⟩ := Run.ok_of_bind advanced
      rw [← List.append_assoc]
      exact ih (reached.next performed) tail

/-- What comes of some steps: a point that is reached, or a failure at one that has been reached. -/
theorem Reaches.advance_cases {point : Point} {events : List Event} {state : σ} (steps : Nat)
    (reached : Reaches around destination start point events state) :
    (∃ later more after,
        advance around destination steps point state = ⟨.ok later, more, after⟩ ∧
          Reaches around destination start later (events ++ more) after) ∨
      ∃ stop before between failure more last,
        Reaches around destination start stop before between ∧
          stop.perform around destination between = ⟨.error failure, more, last⟩ := by
  induction steps generalizing point events state with
  | zero => exact .inl ⟨point, [], state, rfl, by simpa using reached⟩
  | succ steps ih =>
      rcases Run.bind_cases (point.perform around destination)
          (advance around destination steps) state with
        ⟨failure, more, last, failed, _⟩ | ⟨next, more, between, performed, whole⟩
      · exact .inr ⟨point, events, state, failure, more, last, reached, failed⟩
      · rcases ih (reached.next performed) with ⟨later, rest, after, advanced, arrived⟩ | stopped
        · refine .inl ⟨later, more ++ rest, after, ?_, ?_⟩
          · rw [advance, whole, advanced]
            rfl
          · rw [← List.append_assoc]
            exact arrived
        · exact .inr stopped

/-- A dial reaches a connection, or a step fails that it has reached; its events are those on the way
and those of the failing step. -/
theorem dial_cases (around : Surroundings σ) (destination : Destination) (start : σ) :
    (∃ session events last,
        Reaches around destination start (.connected session) events last ∧
          dial around destination start = ⟨.ok session, events, last⟩) ∨
      ∃ point events state failure more last,
        Reaches around destination start point events state ∧
          point.perform around destination state = ⟨.error failure, more, last⟩ ∧
            dial around destination start = ⟨.error failure, events ++ more, last⟩ := by
  have begun : Reaches around destination start .keys [] start := .start
  rcases begun.advance_cases 7 with
    ⟨later, events, last, advanced, reached⟩ |
    ⟨point, events, state, failure, more, last, reached, failed⟩
  · rw [advance_eq_dial] at advanced
    obtain ⟨session, ended, rfl⟩ := Run.ok_of_bind_pure advanced
    exact .inl ⟨session, events, last, reached, ended⟩
  · exact .inr ⟨point, events, state, failure, more, last, reached, failed,
      dial_of_failure reached failed⟩

end SecureShell.Dial
