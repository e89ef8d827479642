/-
Module: SecureShell.Connection.Run
Purpose: A run of connection steps. A run takes the surroundings from one state to another, ends with a
  value or with the failure of a step, and reports the events that have happened; the events of two runs
  one after the other stand one after the other.
Main exports: Report, Report.after, Run, Run.fail, Run.record, Run.ask, Run.bind_cases
-/
import SecureShell.Connection.Surroundings

namespace SecureShell

/-- How a run ends, what has been seen of it, and the state that it leaves. -/
structure Report (σ α : Type) where
  result : Except ConnectionFailure α
  events : List Event
  state : σ

namespace Report

variable {σ α : Type}

/-- A report with the events that came before it. -/
def after (events : List Event) (report : Report σ α) : Report σ α :=
  { report with events := events ++ report.events }

@[simp] theorem after_result (events : List Event) (report : Report σ α) :
    (report.after events).result = report.result := rfl

@[simp] theorem after_events (events : List Event) (report : Report σ α) :
    (report.after events).events = events ++ report.events := rfl

@[simp] theorem after_state (events : List Event) (report : Report σ α) :
    (report.after events).state = report.state := rfl

@[simp] theorem after_nil (report : Report σ α) : report.after [] = report := rfl

theorem after_after (events more : List Event) (report : Report σ α) :
    (report.after more).after events = report.after (events ++ more) := by
  simp [after]

end Report

/-- A sequence of steps that meets surroundings with a state. -/
def Run (σ α : Type) : Type := σ → Report σ α

namespace Run

variable {σ α β : Type}

/-- No step at all. -/
def done (value : α) : Run σ α :=
  fun state => ⟨.ok value, [], state⟩

/-- A run, and if it does not fail the run that its value leads to. -/
def andThen (first : Run σ α) (next : α → Run σ β) : Run σ β := fun state =>
  match first state with
  | ⟨.error failure, events, later⟩ => ⟨.error failure, events, later⟩
  | ⟨.ok value, events, later⟩ =>
      let rest := next value later
      ⟨rest.result, events ++ rest.events, rest.state⟩

instance : Monad (Run σ) where
  pure := done
  bind := andThen

/-- The end of a run by a failure. -/
def fail (failure : ConnectionFailure) : Run σ α :=
  fun state => ⟨.error failure, [], state⟩

/-- Reports an event. -/
def record (event : Event) : Run σ Unit :=
  fun state => ⟨.ok (), [event], state⟩

/-- Takes an answer of the surroundings. -/
def ask (question : σ → α × σ) : Run σ α := fun state =>
  let reply := question state
  ⟨.ok reply.1, [], reply.2⟩

/-- Changes the state of the surroundings. -/
def change (effect : σ → σ) : Run σ Unit :=
  fun state => ⟨.ok (), [], effect state⟩

/-- A value, or the failure that stands in its place. -/
def ofExcept : Except ConnectionFailure α → Run σ α
  | .ok value => done value
  | .error failure => fail failure

@[simp] theorem pure_apply (value : α) (state : σ) :
    (pure value : Run σ α) state = ⟨.ok value, [], state⟩ := rfl

@[simp] theorem fail_apply (failure : ConnectionFailure) (state : σ) :
    (fail failure : Run σ α) state = ⟨.error failure, [], state⟩ := rfl

@[simp] theorem record_apply (event : Event) (state : σ) :
    record event state = ⟨.ok (), [event], state⟩ := rfl

@[simp] theorem ask_apply (question : σ → α × σ) (state : σ) :
    ask question state = ⟨.ok (question state).1, [], (question state).2⟩ := rfl

@[simp] theorem change_apply (effect : σ → σ) (state : σ) :
    change effect state = ⟨.ok (), [], effect state⟩ := rfl

/-- A run whose first part gives a value goes on with that value. -/
theorem bind_of_ok {first : Run σ α} {next : α → Run σ β} {state later : σ} {value : α}
    {events : List Event} (ended : first state = ⟨.ok value, events, later⟩) :
    (first >>= next) state = (next value later).after events := by
  change andThen first next state = _
  simp [andThen, ended, Report.after]

/-- A run whose first part fails ends there. -/
theorem bind_of_error {first : Run σ α} {next : α → Run σ β} {state later : σ}
    {failure : ConnectionFailure} {events : List Event}
    (ended : first state = ⟨.error failure, events, later⟩) :
    (first >>= next) state = ⟨.error failure, events, later⟩ := by
  change andThen first next state = _
  simp [andThen, ended]

/-- Either the first part of a run fails, or the rest follows on its value. -/
theorem bind_cases (first : Run σ α) (next : α → Run σ β) (state : σ) :
    (∃ failure events later, first state = ⟨.error failure, events, later⟩ ∧
        (first >>= next) state = ⟨.error failure, events, later⟩) ∨
      ∃ value events later, first state = ⟨.ok value, events, later⟩ ∧
        (first >>= next) state = (next value later).after events := by
  rcases ended : first state with ⟨failure | value, events, later⟩
  · exact .inl ⟨failure, events, later, rfl, bind_of_error ended⟩
  · exact .inr ⟨value, events, later, rfl, bind_of_ok ended⟩

@[simp] theorem record_bind (event : Event) (next : Unit → Run σ β) (state : σ) :
    (record event >>= next) state = (next () state).after [event] := rfl

@[simp] theorem ask_bind (question : σ → α × σ) (next : α → Run σ β) (state : σ) :
    (ask question >>= next) state = next (question state).1 (question state).2 := rfl

@[simp] theorem change_bind (effect : σ → σ) (next : Unit → Run σ β) (state : σ) :
    (change effect >>= next) state = next () (effect state) := rfl

end Run

end SecureShell
