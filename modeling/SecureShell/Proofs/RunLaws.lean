/-
Module: SecureShell.Proofs.RunLaws
Purpose: Runs obey the laws of a monad, so that a composed run may be cut anywhere. What every event and
  every failure of a run are like follows from what its parts are like.
Main exports: Run.ok_of_bind, Run.ok_of_bind_pure, Run.error_of_bind_pure, Run.Emits, Run.emits_bind,
  Run.FailsBy, Run.failsBy_ask_bind, Run.failsBy_bind
-/
import SecureShell.Connection.Run

namespace SecureShell.Run

variable {σ α β : Type}

instance : LawfulMonad (Run σ) :=
  LawfulMonad.mk' (Run σ)
    (by
      intro α run
      funext state
      change andThen run done state = run state
      rcases ended : run state with ⟨failure | value, events, later⟩ <;>
        simp [andThen, done, ended])
    (fun _ _ => rfl)
    (by
      intro α β γ run next last
      funext state
      rcases bind_cases run next state with
        ⟨failure, events, later, ended, first⟩ | ⟨value, events, later, ended, first⟩
      · rw [bind_of_error first, bind_of_error ended]
      · rw [bind_of_ok ended]
        rcases bind_cases (next value) last later with
          ⟨failure, more, final, second, whole⟩ | ⟨result, more, final, second, whole⟩
        · rw [second] at first
          rw [whole, bind_of_error first]
          rfl
        · rw [second] at first
          rw [whole, bind_of_ok first, Report.after_after])

/-- A composed run that gives a value consists of two parts that give values. -/
theorem ok_of_bind {first : Run σ α} {next : α → Run σ β} {state last : σ} {result : β}
    {events : List Event} (ended : (first >>= next) state = ⟨.ok result, events, last⟩) :
    ∃ value before later rest, first state = ⟨.ok value, before, later⟩ ∧
      next value later = ⟨.ok result, rest, last⟩ ∧ events = before ++ rest := by
  rcases bind_cases first next state with
    ⟨failure, before, later, _, whole⟩ | ⟨value, before, later, head, whole⟩
  · rw [whole] at ended
    cases ended
  · rw [whole] at ended
    rcases tail : next value later with ⟨outcome, rest, final⟩
    rw [tail] at ended
    simp only [Report.after, Report.mk.injEq] at ended
    obtain ⟨rfl, rfl, rfl⟩ := ended
    exact ⟨value, before, later, rest, head, tail, rfl⟩

/-- A value that a run passes on was given by the run itself. -/
theorem ok_of_bind_pure {run : Run σ α} {f : α → β} {state last : σ} {result : β}
    {events : List Event}
    (ended : (run >>= fun value => pure (f value)) state = ⟨.ok result, events, last⟩) :
    ∃ value, run state = ⟨.ok value, events, last⟩ ∧ f value = result := by
  obtain ⟨value, before, later, rest, head, tail, rfl⟩ := ok_of_bind ended
  cases tail
  exact ⟨value, by simpa using head, rfl⟩

/-- A failure of a run whose value would be passed on is a failure of the run itself. -/
theorem error_of_bind_pure {run : Run σ α} {f : α → β} {state last : σ}
    {failure : ConnectionFailure} {events : List Event}
    (ended : (run >>= fun value => pure (f value)) state = ⟨.error failure, events, last⟩) :
    run state = ⟨.error failure, events, last⟩ := by
  rcases bind_cases run (fun value => pure (f value)) state with
    ⟨other, before, later, first, whole⟩ | ⟨value, before, later, _, whole⟩
  · rw [whole] at ended
    cases ended
    exact first
  · rw [whole] at ended
    cases ended

/-- Passing on a value is not seen from outside. -/
theorem events_bind_pure (run : Run σ α) (f : α → β) (state : σ) :
    ((run >>= fun value => pure (f value)) state).events = (run state).events := by
  rcases bind_cases run (fun value => pure (f value)) state with
    ⟨failure, events, later, ended, whole⟩ | ⟨value, events, later, ended, whole⟩
  · rw [whole, ended]
  · rw [whole, ended]
    simp

/-- Every event of a run, whatever its state and its end, is an allowed one. -/
def Emits (allowed : Event → Prop) (run : Run σ α) : Prop :=
  ∀ state, ∀ event ∈ (run state).events, allowed event

/-- Every failure of a run, whatever its state, is a possible one. -/
def FailsBy (possible : ConnectionFailure → Prop) (run : Run σ α) : Prop :=
  ∀ state failure, (run state).result = .error failure → possible failure

section Emits

variable {allowed : Event → Prop}

theorem Emits.imp {allowed other : Event → Prop} {run : Run σ α} (emits : run.Emits allowed)
    (weaker : ∀ event, allowed event → other event) : run.Emits other :=
  fun state event member => weaker event (emits state event member)

theorem emits_pure (value : α) : Emits allowed (pure value : Run σ α) := by
  intro state event member
  simp at member

theorem emits_fail (failure : ConnectionFailure) : Emits allowed (fail failure : Run σ α) := by
  intro state event member
  simp at member

theorem emits_ask (question : σ → α × σ) : Emits allowed (ask question) := by
  intro state event member
  simp at member

theorem emits_change (effect : σ → σ) : Emits allowed (change effect) := by
  intro state event member
  simp at member

theorem emits_record {event : Event} (fits : allowed event) :
    Emits allowed (record event : Run σ Unit) := by
  intro state other member
  simp only [record_apply, List.mem_singleton] at member
  exact member ▸ fits

theorem emits_bind {first : Run σ α} {next : α → Run σ β} (head : Emits allowed first)
    (tail : ∀ value, Emits allowed (next value)) : Emits allowed (first >>= next) := by
  intro state event member
  have early := head state
  rcases bind_cases first next state with
    ⟨failure, events, later, ended, whole⟩ | ⟨value, events, later, ended, whole⟩
  · rw [ended] at early
    rw [whole] at member
    exact early event member
  · rw [ended] at early
    rw [whole, Report.after_events] at member
    rcases List.mem_append.mp member with before | behind
    · exact early event before
    · exact tail value later event behind

end Emits

section FailsBy

variable {possible : ConnectionFailure → Prop}

theorem failsBy_pure (value : α) : FailsBy possible (pure value : Run σ α) := by
  intro state failure failed
  cases failed

theorem failsBy_ask_bind {question : σ → α × σ} {next : α → Run σ β}
    (tail : ∀ state, FailsBy possible (next (question state).1)) :
    FailsBy possible (ask question >>= next) := by
  intro state failure failed
  exact tail state _ failure failed

theorem failsBy_record (event : Event) : FailsBy possible (record event : Run σ Unit) := by
  intro state failure failed
  cases failed

theorem failsBy_fail {failure : ConnectionFailure} (fits : possible failure) :
    FailsBy possible (fail failure : Run σ α) := by
  intro state other failed
  cases failed
  exact fits

theorem failsBy_bind {first : Run σ α} {next : α → Run σ β} (head : FailsBy possible first)
    (tail : ∀ value, FailsBy possible (next value)) : FailsBy possible (first >>= next) := by
  intro state failure failed
  rcases bind_cases first next state with
    ⟨other, events, later, ended, whole⟩ | ⟨value, events, later, ended, whole⟩
  · rw [whole] at failed
    cases failed
    exact head state failure (by rw [ended])
  · rw [whole, Report.after_result] at failed
    exact tail value later failure failed

end FailsBy

end SecureShell.Run
