/-
Module: SecureShell.Proofs.DialSafety
Purpose: The order of a dial as its events show it. A stream or a proxy is asked for once and only when
  everything before it has been found; nothing is attempted before the host key has been trusted; a
  rejected host key is the end; and the failure of a dial is that of the first step that fails, behind
  which nothing of a later step happens.
Main exports: Dial.Ready, Dial.Safe, Dial.FailsAt, Dial.Orderly, Dial.Reaches.safe, Dial.dial_orderly
-/
import SecureShell.Proofs.DialFailures

namespace SecureShell

/-- Whether an event is the request for a stream or a proxy. -/
def Event.isRequest : Event → Bool
  | .streamRequested _ _ => true
  | .proxyRequested _ _ => true
  | _ => false

theorem Event.step?_of_isRequest {event : Event} (request : event.isRequest = true) :
    event.step? = some .opening := by
  cases event <;> simp_all [isRequest, step?]

namespace Dial

variable {σ : Type}

/-- The events show that everything before the first contact with the peer has been done. -/
structure Ready (around : Surroundings σ) (destination : Destination) (events : List Event) :
    Prop where
  keys : List.Forall₂ (Decodes around) destination.keys (decodedKeys events)
  agent : ∀ socket, destination.agentSocket = some socket → destination.useAgent = true →
    .agentListed (listedIdentities events) ∈ events
  hostLists : .hostListsOpened destination.knownHosts ∈ events
  opened : ∀ path ∈ destination.knownHosts, around.files.opened path = .ok ()
  proxy : ∀ proxy, destination.proxy = some proxy → ∃ line,
    proxy.commandFor destination.user destination.port destination.hostname = .ok line ∧
      .proxyResolved line ∈ events

/-- What holds of the events of a dial at any time. -/
structure Safe (around : Surroundings σ) (destination : Destination) (events : List Event) :
    Prop where
  once : events.countP Event.isRequest ≤ 1
  ready : ∀ before request after, events = before ++ request :: after →
    request.isRequest = true → Ready around destination before
  checked : ∀ key trusted, .hostKeyChecked key trusted ∈ events → ∃ verifier,
    HostKeyVerifier.create around.files destination.hostname destination.port
      destination.knownHosts = .ok verifier ∧ verifier.trusts around.files key = trusted
  trusted : ∀ before attempt after, events = before ++ .attempted attempt :: after →
    ∃ key, .hostKeyChecked key true ∈ before
  ordered : (events.filterMap Event.step?).Pairwise fun early late => early.rank ≤ late.rank

/-- A dial gets to a point and fails there. What comes before the point has been found, the failure is one
of the step at the point, and nothing is seen of a later step. -/
structure FailsAt (around : Surroundings σ) (destination : Destination) (start : σ) (point : Point)
    (before more : List Event) (failure : ConnectionFailure) : Prop where
  fails : ∃ state last, Reaches around destination start point before state ∧
    point.perform around destination state = ⟨.error failure, more, last⟩
  found : Found around destination before point
  kind : FailureOf around destination point.step failure
  earlier : ∀ event ∈ before, ∀ own, event.step? = some own → own.rank < point.step.rank
  within : ∀ event ∈ more, ∀ own, event.step? = some own → own = point.step

/-- A dial whose steps happen in their order. -/
structure Orderly (around : Surroundings σ) (destination : Destination) (start : σ)
    (report : Report σ Session) : Prop extends Safe around destination report.events where
  rejected : ∀ key, .hostKeyChecked key false ∈ report.events →
    report.result = .error (.hostKeyRejected destination.hostname destination.port) ∧
      report.events.getLast? = some (.hostKeyChecked key false) ∧ attemptsOf report.events = []
  fails : ∀ failure, report.result = .error failure ↔ ∃ point before more,
    FailsAt around destination start point before more failure ∧ report.events = before ++ more
  connects : ∀ session, report.result = .ok session ↔ ∃ last,
    Reaches around destination start (.connected session) report.events last

variable {around : Surroundings σ} {destination : Destination} {start : σ}

theorem Prepares.ready {prepared : Prepared} {events : List Event}
    (found : Prepares around destination prepared events) : Ready around destination events where
  keys := found.keys.decode
  agent := found.agent.asked
  hostLists := found.hostLists.seen
  opened := (HostKeyVerifier.create_eq_ok found.hostLists.created).2
  proxy := by
    intro proxy proxied
    obtain ⟨line, _, resolved, seen⟩ := found.proxy.proxied proxy proxied
    exact ⟨line, resolved, seen⟩

/-! ### What has happened before a point -/

theorem Point.eq_opening {point : Point} (opening : point.step = .opening) :
    ∃ prepared, point = .opening prepared := by
  cases point <;> simp_all [Point.step]

theorem Point.eq_handshake {point : Point} (handshake : point.step = .handshake) :
    ∃ prepared process, point = .handshake prepared process := by
  cases point <;> simp_all [Point.step]

theorem Point.eq_authentication {point : Point} (authentication : point.step = .authentication) :
    ∃ prepared process, point = .authentication prepared process := by
  cases point <;> simp_all [Point.step]

/-- The events on the way to a point belong to the steps in front of it. -/
theorem Reaches.earlier {point : Point} {events : List Event} {state : σ}
    (reached : Reaches around destination start point events state) :
    ∀ event ∈ events, ∀ own, event.step? = some own → own.rank < point.step.rank := by
  induction reached with
  | start => simp
  | @next point later events more state after before step ih =>
      rcases Point.perform_ok step with forward | ⟨_, rfl, rfl, rfl⟩
      · intro event member own owned
        rcases List.mem_append.mp member with early | late
        · have := ih event early own owned
          omega
        · have emitted := point.perform_emits around destination state event (by rwa [step])
          rw [emitted own owned]
          omega
      · simpa using ih

/-! ### The request for a stream or a proxy -/

theorem openConnection_events (around : Surroundings σ) (destination : Destination)
    (proxyLine : Option Text) (state : σ) :
    ∃ request more, (openConnection around destination proxyLine state).events = request :: more ∧
      request.isRequest = true ∧ ∀ event ∈ more, event.isRequest = false := by
  cases proxyLine with
  | none =>
      refine ⟨.streamRequested destination.hostname destination.port, [], ?_, rfl, by simp⟩
      simp only [openConnection, Run.record_bind, Run.ask_bind]
      cases (around.openStream destination.customDialer destination.hostname destination.port
        state).1 with
      | refused cause => rfl
      | silent => rfl
      | opened =>
          dsimp only
          split <;> rfl
  | some line =>
      refine ⟨.proxyRequested line destination.proxyDirectory, ?_⟩
      simp only [openConnection, Run.record_bind, Run.ask_bind]
      cases (around.startProxy line destination.proxyDirectory destination.proxyLimit state).1 with
      | error cause => exact ⟨[], rfl, rfl, by simp⟩
      | ok process => exact ⟨[.proxyStarted process], rfl, rfl, by simp [Event.isRequest]⟩

theorem Point.opening_events (around : Surroundings σ) (destination : Destination)
    (prepared : Prepared) (state : σ) :
    ∃ request more,
      ((Point.opening prepared).perform around destination state).events = request :: more ∧
        request.isRequest = true ∧ ∀ event ∈ more, event.isRequest = false := by
  have performed : ((Point.opening prepared).perform around destination state).events =
      (openConnection around destination prepared.proxyLine state).events :=
    Run.events_bind_pure _ _ _
  rw [performed]
  exact openConnection_events around destination prepared.proxyLine state

theorem no_requests {events : List Event}
    (others : ∀ event ∈ events, ∀ own, event.step? = some own → own ≠ .opening) :
    events.countP Event.isRequest = 0 := by
  refine List.countP_eq_zero.mpr fun event member request => ?_
  exact others event member _ (Event.step?_of_isRequest request) rfl

theorem Reaches.requests_le {point : Point} {events : List Event} {state : σ}
    (reached : Reaches around destination start point events state)
    (once : events.countP Event.isRequest ≤ 1) :
    (events ++ (point.perform around destination state).events).countP Event.isRequest ≤ 1 := by
  rw [List.countP_append]
  by_cases opening : point.step = .opening
  · have early : events.countP Event.isRequest = 0 := by
      refine no_requests fun event member own owned same => ?_
      have before := reached.earlier event member own owned
      rw [same, opening] at before
      exact Nat.lt_irrefl _ before
    obtain ⟨prepared, rfl⟩ := Point.eq_opening opening
    obtain ⟨request, more, seen, asks, others⟩ :=
      Point.opening_events around destination prepared state
    have rest : more.countP Event.isRequest = 0 :=
      List.countP_eq_zero.mpr fun event member => by simp [others event member]
    apply Nat.le_of_eq
    rw [seen, List.countP_cons_of_pos asks, early, rest]
  · have late : (point.perform around destination state).events.countP Event.isRequest = 0 := by
      refine no_requests fun event member own owned same => ?_
      have within := point.perform_emits around destination state event member own owned
      exact opening (within ▸ same)
    omega

/-! ### What has happened before an event -/

/-- An event of two lists one behind the other is in the first list, or in the second behind all of the
first. -/
theorem split_append {α : Type} {events more before after : List α} {event : α}
    (split : events ++ more = before ++ event :: after) :
    (∃ rest, events = before ++ event :: rest) ∨
      ∃ front, before = events ++ front ∧ more = front ++ event :: after := by
  rcases List.append_eq_append_iff.mp split with ⟨front, rfl, same⟩ | ⟨rest, rfl, same⟩
  · exact .inr ⟨front, rfl, same⟩
  · cases rest with
    | nil => exact .inr ⟨[], by simp, by simpa using same.symm⟩
    | cons first rest =>
        cases same
        exact .inl ⟨rest, rfl⟩

theorem Reaches.ready_before {point : Point} {events front after : List Event} {state : σ}
    {request : Event} (reached : Reaches around destination start point events state)
    (split : (point.perform around destination state).events = front ++ request :: after)
    (asks : request.isRequest = true) : Ready around destination (events ++ front) := by
  have opening : Step.opening = point.step :=
    point.perform_emits around destination state request (by simp [split]) _
      (Event.step?_of_isRequest asks)
  obtain ⟨prepared, rfl⟩ := Point.eq_opening opening.symm
  obtain ⟨first, more, seen, _, others⟩ := Point.opening_events around destination prepared state
  rw [seen] at split
  cases front with
  | nil =>
      rw [List.append_nil]
      exact Prepares.ready reached.found
  | cons other front =>
      -- a second request would be one of the others
      obtain ⟨rfl, rfl⟩ := List.cons.inj split
      rw [others request (by simp)] at asks
      cases asks

theorem Reaches.trusted_before {point : Point} {events : List Event} {state : σ}
    {attempt : Attempt} (reached : Reaches around destination start point events state)
    (attempted : .attempted attempt ∈ (point.perform around destination state).events) :
    ∃ key, .hostKeyChecked key true ∈ events := by
  have authentication : Step.authentication = point.step :=
    point.perform_emits around destination state _ attempted _ rfl
  obtain ⟨prepared, process, rfl⟩ := Point.eq_authentication authentication.symm
  obtain ⟨_, key, seen, _⟩ := reached.found
  exact ⟨key, seen⟩

/-! ### The check of the host key -/

theorem Point.handshake_cases (around : Surroundings σ) (destination : Destination)
    (prepared : Prepared) (process : Option Nat) (state : σ) :
    let report := (Point.handshake prepared process).perform around destination state
    ((∀ later, report.result ≠ .ok later) ∧ ∀ event ∈ report.events, event.step? = none) ∨
      (∃ key, prepared.verifier.trusts around.files key = false ∧
        report.result = .error (.hostKeyRejected destination.hostname destination.port) ∧
          report.events = [.hostKeyChecked key false]) ∨
        ∃ key more, prepared.verifier.trusts around.files key = true ∧
          report.events = .hostKeyChecked key true :: more ∧
            ∀ event ∈ more, event.step? = none := by
  have shaken := shakeHands_cases around destination prepared.verifier prepared.proxyLine state
  rcases Run.bind_cases (shakeHands around destination prepared.verifier
      (expire around destination prepared.proxyLine))
      (fun _ => pure (Point.authentication prepared process)) state with
    ⟨failure, events, last, ended, whole⟩ | ⟨_, events, last, ended, whole⟩
  · rw [ended] at shaken
    simp only [Point.perform, whole]
    rcases shaken with ⟨_, free⟩ | ⟨key, untrusted, rejected, seen⟩ | trusted
    · exact .inl ⟨by simp, free⟩
    · cases rejected
      exact .inr (.inl ⟨key, untrusted, rfl, seen⟩)
    · exact .inr (.inr trusted)
  · rw [ended] at shaken
    simp only [Point.perform, whole]
    rcases shaken with ⟨failed, _⟩ | ⟨_, _, rejected, _⟩ | trusted
    · exact absurd rfl failed
    · cases rejected
    · exact .inr (.inr (by simpa using trusted))

/-- The point at which a host key is checked, and what the check comes to. -/
theorem Reaches.checked {point : Point} {events : List Event} {state : σ} {key : PublicKey}
    {trusted : Bool} (reached : Reaches around destination start point events state)
    (seen : .hostKeyChecked key trusted ∈ (point.perform around destination state).events) :
    (∃ verifier, HostKeyVerifier.create around.files destination.hostname destination.port
        destination.knownHosts = .ok verifier ∧ verifier.trusts around.files key = trusted) ∧
      (trusted = false → point.step = .handshake ∧
        (point.perform around destination state).result =
          .error (.hostKeyRejected destination.hostname destination.port) ∧
            (point.perform around destination state).events = [.hostKeyChecked key false]) := by
  have handshake : Step.handshake = point.step :=
    point.perform_emits around destination state _ seen _ rfl
  obtain ⟨prepared, process, rfl⟩ := Point.eq_handshake handshake.symm
  have created := (Prepares.hostLists reached.found).created
  rcases Point.handshake_cases around destination prepared process state with
    ⟨_, free⟩ | ⟨other, untrusted, rejected, events⟩ | ⟨other, more, trusts, events, free⟩
  · cases free _ seen
  · rw [events] at seen
    obtain ⟨rfl, rfl⟩ : key = other ∧ trusted = false := by simpa using seen
    exact ⟨⟨_, created, untrusted⟩, fun _ => ⟨rfl, rejected, events⟩⟩
  · rw [events] at seen
    rcases List.mem_cons.mp seen with same | later
    · obtain ⟨rfl, rfl⟩ : key = other ∧ trusted = true := by simpa using same
      exact ⟨⟨_, created, trusts⟩, by simp⟩
    · cases free _ later

/-- No dial gets anywhere behind the rejection of a host key. -/
theorem Reaches.unrejected {point : Point} {events : List Event} {state : σ} (key : PublicKey)
    (reached : Reaches around destination start point events state) :
    .hostKeyChecked key false ∉ events := by
  induction reached with
  | start => simp
  | next before step ih =>
      intro seen
      rcases List.mem_append.mp seen with early | late
      · exact ih early
      · obtain ⟨_, rejected⟩ := before.checked (by rwa [step])
        obtain ⟨_, failed, _⟩ := rejected rfl
        rw [step] at failed
        cases failed

/-- Nothing has been attempted on the way to an authentication. -/
theorem Reaches.unattempted {point : Point} {events : List Event} {state : σ}
    (reached : Reaches around destination start point events state)
    (early : point.step.rank ≤ Step.authentication.rank) : attemptsOf events = [] := by
  refine List.filterMap_eq_nil_iff.mpr fun event member => ?_
  cases event with
  | attempted attempt =>
      have before : Step.authentication.rank < point.step.rank :=
        reached.earlier _ member _ rfl
      exact absurd early (Nat.not_le.mpr before)
  | _ => rfl

/-! ### The events of a dial are safe -/

/-- The step at a point keeps the events safe, whether it fails or not. -/
theorem Reaches.safe_after {point : Point} {events : List Event} {state : σ}
    (reached : Reaches around destination start point events state)
    (safe : Safe around destination events) :
    Safe around destination (events ++ (point.perform around destination state).events) where
  once := reached.requests_le safe.once
  ready := by
    intro before request after split asks
    rcases split_append split with ⟨rest, whole⟩ | ⟨front, rfl, whole⟩
    · exact safe.ready before request rest whole asks
    · exact reached.ready_before whole asks
  checked := by
    intro key trusted seen
    rcases List.mem_append.mp seen with early | late
    · exact safe.checked key trusted early
    · exact (reached.checked late).1
  trusted := by
    intro before attempt after split
    rcases split_append split with ⟨rest, whole⟩ | ⟨front, rfl, whole⟩
    · exact safe.trusted before attempt rest whole
    · have attempted :
          .attempted attempt ∈ (point.perform around destination state).events := by simp [whole]
      obtain ⟨key, seen⟩ := reached.trusted_before attempted
      exact ⟨key, List.mem_append_left _ seen⟩
  ordered := by
    rw [List.filterMap_append]
    have within := point.perform_emits around destination state
    refine List.pairwise_append.mpr ⟨safe.ordered, ?_, ?_⟩
    · refine List.pairwise_of_forall_mem_list fun early first late second => ?_
      obtain ⟨event, member, owned⟩ := List.mem_filterMap.mp first
      obtain ⟨other, member', owned'⟩ := List.mem_filterMap.mp second
      apply Nat.le_of_eq
      rw [within event member early owned, within other member' late owned']
    · intro early first late second
      obtain ⟨event, member, owned⟩ := List.mem_filterMap.mp first
      obtain ⟨other, member', owned'⟩ := List.mem_filterMap.mp second
      rw [within other member' late owned']
      exact Nat.le_of_lt (reached.earlier event member early owned)

/-- The events on the way to a point are safe. -/
theorem Reaches.safe {point : Point} {events : List Event} {state : σ}
    (reached : Reaches around destination start point events state) :
    Safe around destination events := by
  induction reached with
  | start => exact ⟨by simp, by simp, by simp, by simp, by simp⟩
  | next before step ih =>
      have safe := before.safe_after ih
      rwa [step] at safe

/-! ### The end of a dial -/

theorem Reaches.failsAt {point : Point} {before more : List Event} {state last : σ}
    {failure : ConnectionFailure}
    (reached : Reaches around destination start point before state)
    (failed : point.perform around destination state = ⟨.error failure, more, last⟩) :
    FailsAt around destination start point before more failure where
  fails := ⟨state, last, reached, failed⟩
  found := reached.found
  kind := reached.failure state failure (by rw [failed])
  earlier := reached.earlier
  within := by
    intro event member own owned
    exact point.perform_emits around destination state event (by rwa [failed]) own owned

/-- The failure of a dial is that of the point at which it fails. -/
theorem dial_eq_error_iff (failure : ConnectionFailure) :
    (dial around destination start).result = .error failure ↔ ∃ point before more,
      FailsAt around destination start point before more failure ∧
        (dial around destination start).events = before ++ more := by
  constructor
  · intro ended
    rcases dial_cases around destination start with
      ⟨session, events, last, _, whole⟩ |
      ⟨point, events, state, other, more, last, reached, failed, whole⟩
    · rw [whole] at ended
      cases ended
    · rw [whole] at ended ⊢
      cases ended
      exact ⟨point, events, more, reached.failsAt failed, rfl⟩
  · rintro ⟨point, before, more, ⟨⟨state, last, reached, failed⟩, _⟩, _⟩
    rw [dial_of_failure reached failed]

/-- A dial gives a connection when it gets through all steps. -/
theorem dial_eq_ok_iff (session : Session) :
    (dial around destination start).result = .ok session ↔ ∃ last,
      Reaches around destination start (.connected session)
        (dial around destination start).events last := by
  constructor
  · intro ended
    rcases dial_cases around destination start with
      ⟨other, events, last, reached, whole⟩ | ⟨_, _, _, failure, _, _, _, _, whole⟩
    · rw [whole] at ended ⊢
      cases ended
      exact ⟨last, reached⟩
    · rw [whole] at ended
      cases ended
  · rintro ⟨last, reached⟩
    rw [dial_of_connected reached]

theorem dial_safe : Safe around destination (dial around destination start).events := by
  rcases dial_cases around destination start with
    ⟨session, events, last, reached, whole⟩ |
    ⟨point, events, state, failure, more, last, reached, failed, whole⟩
  · rw [whole]
    exact reached.safe
  · have safe := reached.safe_after reached.safe
    rw [failed] at safe
    rwa [whole]

/-- A host key that is rejected is the last that is seen of a dial. -/
theorem dial_of_rejected {key : PublicKey}
    (seen : .hostKeyChecked key false ∈ (dial around destination start).events) :
    (dial around destination start).result =
        .error (.hostKeyRejected destination.hostname destination.port) ∧
      (dial around destination start).events.getLast? = some (.hostKeyChecked key false) ∧
        attemptsOf (dial around destination start).events = [] := by
  rcases dial_cases around destination start with
    ⟨session, events, last, reached, whole⟩ |
    ⟨point, events, state, failure, more, last, reached, failed, whole⟩
  · rw [whole] at seen
    exact absurd seen (reached.unrejected key)
  · rw [whole] at seen ⊢
    rcases List.mem_append.mp seen with early | late
    · exact absurd early (reached.unrejected key)
    · obtain ⟨_, rejected⟩ := reached.checked (by rwa [failed])
      obtain ⟨handshake, result, alone⟩ := rejected rfl
      rw [failed] at result alone
      obtain rfl : more = [.hostKeyChecked key false] := alone
      obtain rfl := Except.error.inj result
      refine ⟨rfl, by simp, ?_⟩
      have early : point.step.rank ≤ Step.authentication.rank := by rw [handshake]; decide
      rw [attemptsOf, List.filterMap_append, ← attemptsOf, reached.unattempted early]
      rfl

/-- A dial takes its steps in order, whatever it meets. -/
theorem dial_orderly (around : Surroundings σ) (destination : Destination) (start : σ) :
    Orderly around destination start (dial around destination start) where
  toSafe := dial_safe
  rejected := fun _ seen => dial_of_rejected seen
  fails := dial_eq_error_iff
  connects := dial_eq_ok_iff

end Dial

end SecureShell
