/-
Module: SecureShell.Proofs.ProxyLife
Purpose: What a dial does to the proxy that it has started. Only when the limit of the proxy runs out is the proxy
  killed and reaped, and then nothing happens any more. A dial that ends in another way, also by a rejected host key
  or a refused login, leaves the proxy to itself, whether it has exited or not.
Main exports: Event.LeavesProxy, ProxyFate, Dial.dial_proxyFate, Dial.proxy_left, Dial.proxy_left_running
-/
import SecureShell.Proofs.DialEvents

namespace SecureShell

/-- An event that is not part of the end of a proxy. -/
def Event.LeavesProxy (event : Event) : Prop :=
  event ≠ .proxyKilled ∧ event ≠ .proxyReaped

theorem Event.leavesProxy_of_step {step : Dial.Step} {event : Event} (owned : event.step? = some step) :
    event.LeavesProxy := by
  constructor <;> rintro rfl <;> cases owned

/-- What a run does to a proxy: nothing, or its limit runs out, and the run ends by killing and reaping it. -/
inductive ProxyFate {σ α : Type} (around : Surroundings σ) (limit : Span) : Report σ α → Prop where
  | left {report : Report σ α} (untouched : ∀ event ∈ report.events, event.LeavesProxy) :
      ProxyFate around limit report
  | ended {before : List Event} {last : σ} (untouched : ∀ event ∈ before, event.LeavesProxy) :
      ProxyFate around limit
        ⟨.error (.proxyTimeout limit), before ++ [.proxyKilled, .proxyReaped], around.killProxy last⟩

namespace ProxyFate

variable {σ α β : Type} {around : Surroundings σ} {limit : Span}

theorem of_emits {run : Run σ α} (emits : run.Emits Event.LeavesProxy) (state : σ) :
    ProxyFate around limit (run state) :=
  .left (emits state)

theorem of_step {step : Dial.Step} {run : Run σ α} (emits : run.Emits (Event.BelongsTo step)) (state : σ) :
    ProxyFate around limit (run state) :=
  .of_emits (emits.imp fun _ => Event.leavesProxy_of_step) state

/-- What came before leaves the proxy alone, whatever becomes of it later. -/
theorem after {report : Report σ α} (fate : ProxyFate around limit report) {events : List Event}
    (untouched : ∀ event ∈ events, event.LeavesProxy) : ProxyFate around limit (report.after events) := by
  cases fate with
  | left later =>
      exact .left fun event member => (List.mem_append.mp member).elim (untouched event) (later event)
  | @ended before last later =>
      rw [Report.after, ← List.append_assoc]
      exact .ended fun event member => (List.mem_append.mp member).elim (untouched event) (later event)

/-- A run that goes on has not ended the proxy. -/
theorem bind {first : Run σ α} {next : α → Run σ β} (head : ∀ state, ProxyFate around limit (first state))
    (tail : ∀ value state, ProxyFate around limit (next value state)) (state : σ) :
    ProxyFate around limit ((first >>= next) state) := by
  have fate := head state
  rcases Run.bind_cases first next state with
    ⟨failure, events, later, ended, whole⟩ | ⟨value, events, later, ended, whole⟩
  · rw [ended] at fate
    rw [whole]
    cases fate with
    | left untouched => exact .left untouched
    | ended untouched => exact .ended untouched
  · rw [ended] at fate
    rw [whole]
    cases fate with
    | left untouched => exact (tail value later).after untouched

end ProxyFate

namespace Dial

variable {σ : Type} {around : Surroundings σ} {destination : Destination}

theorem expire_proxyFate (proxyLine : Option Text) (state : σ) :
    ProxyFate around destination.proxyLimit (expire around destination proxyLine state) := by
  have nothing : ∀ event ∈ ([] : List Event), event.LeavesProxy := by simp
  cases proxyLine with
  | none => exact .left nothing
  | some line => exact .ended nothing

theorem shakeHands_proxyFate (verifier : HostKeyVerifier) (proxyLine : Option Text) (state : σ) :
    ProxyFate around destination.proxyLimit
      (shakeHands around destination verifier (expire around destination proxyLine) state) := by
  refine .bind (.of_emits (Run.emits_ask _)) (fun greeting state => ?_) state
  cases greeting with
  | silent => exact expire_proxyFate proxyLine state
  | breaks fault => exact .of_emits (Run.emits_fail _) state
  | presents key =>
      refine .bind (.of_emits (Run.emits_record (Event.leavesProxy_of_step rfl))) (fun _ state => ?_) state
      split
      · refine .bind (.of_emits (Run.emits_ask _)) (fun agreement state => ?_) state
        cases agreement with
        | reached => exact .of_emits (Run.emits_pure _) state
        | breaks fault => exact .of_emits (Run.emits_fail _) state
        | silent => exact expire_proxyFate proxyLine state
      · exact .of_emits (Run.emits_fail _) state

theorem authenticate_proxyFate (user : Text) (proxyLine : Option Text) (methods : List Method) (state : σ) :
    ProxyFate around destination.proxyLimit
      (authenticate around user (expire around destination proxyLine) methods state) := by
  induction methods generalizing state with
  | nil => exact .of_emits (Run.emits_fail _) state
  | cons method rest ih =>
      refine .bind (.of_step (use_emits user method)) (fun answer state => ?_) state
      cases answer with
      | accepted => exact .of_emits (Run.emits_pure _) state
      | rejected => exact ih state
      | failed cause => exact .of_emits (Run.emits_fail _) state
      | silent => exact expire_proxyFate proxyLine state

/-- The steps before the first contact with the peer know of no proxy. -/
theorem prepare_emits : Run.Emits Event.LeavesProxy (prepare around destination) := by
  have own : ∀ {step : Step} {α : Type} {run : Run σ α}, run.Emits (Event.BelongsTo step) →
      run.Emits Event.LeavesProxy := fun emits => emits.imp fun _ => Event.leavesProxy_of_step
  refine Run.emits_bind (own (loadKeys_emits _ _)) fun signers => ?_
  refine Run.emits_bind (own agentKeys_emits) fun identities => ?_
  refine Run.emits_bind (own openHostLists_emits) fun verifier => ?_
  exact Run.emits_bind (own resolveProxy_emits) fun proxyLine => Run.emits_pure _

/-- A dial leaves its proxy to itself, or ends by killing and reaping it because the limit has run out. -/
theorem dial_proxyFate (around : Surroundings σ) (destination : Destination) (state : σ) :
    ProxyFate around destination.proxyLimit (dial around destination state) := by
  rw [dial_eq]
  refine .bind (.of_emits prepare_emits) (fun prepared state => ?_) state
  refine .bind (.of_step (openConnection_emits _)) (fun process state => ?_) state
  refine .bind (.bind (shakeHands_proxyFate _ _) fun _ => authenticate_proxyFate _ _ _) (fun _ state => ?_) state
  exact .of_emits (Run.emits_pure _) state

/-- A dial that fails in any other way than by the limit of the proxy does nothing to the proxy. -/
theorem proxy_left {state last : σ} {failure : ConnectionFailure} {events : List Event}
    (failed : dial around destination state = ⟨.error failure, events, last⟩)
    (intime : failure ≠ .proxyTimeout destination.proxyLimit) : ∀ event ∈ events, event.LeavesProxy := by
  have fate := dial_proxyFate around destination state
  rw [failed] at fate
  cases fate with
  | left untouched => exact untouched
  | ended => exact absurd rfl intime

/-- Surroundings in which a proxy goes on running until it is killed, and a peer that lets nobody in. -/
def unwelcoming : Surroundings Bool :=
  { Surroundings.deserted with
    startProxy := fun _ _ _ _ => (.ok 1, true)
    greet := fun running => (.presents ⟨"ssh-ed25519".toList, []⟩, running)
    agree := fun running => (.reached, running)
    killProxy := fun _ => false
    proxyExited := fun running => !running }

/-- A refused login leaves the proxy running: it has neither exited nor been killed. -/
theorem proxy_left_running :
    let destination : Destination :=
      { Destination.direct "h".toList "u".toList 22 with proxy := some (.command "peer".toList) }
    let report := dial unwelcoming destination false
    report.result = .error .authenticationFailed ∧ .proxyStarted 1 ∈ report.events ∧
      .proxyKilled ∉ report.events ∧ unwelcoming.proxyExited report.state = false := by
  intro destination report
  have failed : report = ⟨.error .authenticationFailed, report.events, report.state⟩ := rfl
  refine ⟨rfl, by decide, fun killed => ?_, rfl⟩
  exact (proxy_left failed (by decide) _ killed).1 rfl

end Dial

end SecureShell
