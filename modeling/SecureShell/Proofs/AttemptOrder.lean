/-
Module: SecureShell.Proofs.AttemptOrder
Purpose: Which attempts a dial makes to authenticate, and what comes of them. They are the first of the planned
  attempts up to the one that settles the matter; a dial succeeds when that one is accepted, and nothing
  else than their exhaustion, or a method of the caller that says so, is a failed authentication.
Main exports: Settled, verdict, attemptAll_settled, Dial.planned, Dial.InOrder, Dial.Unsigned,
  Dial.attempts_in_order
-/
import SecureShell.Proofs.DialSafety

namespace SecureShell

/-- What comes of exchanges of which `held` are held and the rest of `all` is not, where `value` is what
an accepted attempt gives and `limit` is the end of the time limit. -/
structure Settled {α : Type} (limit : ConnectionFailure) (value : α) (all held : List Exchange)
    (result : Except ConnectionFailure α) : Prop where
  through : ∃ pending, all = held ++ pending ∧
    (pending = [] ∨ ∃ last, held.getLast? = some last ∧ last.settles = true)
  first : ∀ exchange ∈ held.dropLast, exchange.settles = false
  accepted : ∀ other, result = .ok other ↔
    other = value ∧ ∃ attempt, held.getLast? = some ⟨attempt, .accepted⟩
  aborted : ∀ attempt cause, held.getLast? = some ⟨attempt, .failed cause⟩ →
    (∀ key, attempt ≠ .agentKey key) → result = .error cause
  expired : ∀ attempt, held.getLast? = some ⟨attempt, .silent⟩ → result = .error limit
  exhausted : result = .error .authenticationFailed ↔
    (held = all ∧ ∀ exchange ∈ all, exchange.settles = false) ∨
      ∃ method, held.getLast? = some ⟨.callerMethod method, .failed .authenticationFailed⟩

/-- What the outcome of the last exchange makes of an authentication. -/
def verdict (limit : ConnectionFailure) : AttemptOutcome → Except ConnectionFailure Unit
  | .accepted => .ok ()
  | .rejected => .error .authenticationFailed
  | .failed cause => .error cause
  | .silent => .error limit

theorem Settled.map {α β : Type} {limit : ConnectionFailure} {value : α}
    {all held : List Exchange} {result : Except ConnectionFailure α}
    (settled : Settled limit value all held result) (f : α → β) :
    Settled limit (f value) all held (result.map f) where
  through := settled.through
  first := settled.first
  accepted := by
    intro other
    constructor
    · intro ended
      cases result with
      | error failure => cases ended
      | ok found =>
          obtain ⟨rfl, last⟩ := (settled.accepted found).mp rfl
          cases ended
          exact ⟨rfl, last⟩
    · rintro ⟨rfl, last⟩
      rw [(settled.accepted value).mpr ⟨rfl, last⟩]
      rfl
  aborted := by
    intro attempt cause last fatal
    rw [settled.aborted attempt cause last fatal]
    rfl
  expired := by
    intro attempt last
    rw [settled.expired attempt last]
    rfl
  exhausted := by
    rw [← settled.exhausted]
    cases result <;> simp [Except.map]

variable {σ : Type}

/-! ### What a conversation comes to -/

/-- All exchanges have been held, and none of them settles the matter. -/
theorem Settled.of_vain {limit : ConnectionFailure} {all : List Exchange}
    (unsettled : ∀ exchange ∈ all, exchange.settles = false) :
    Settled limit () all all (.error .authenticationFailed) := by
  have never : ∀ last, all.getLast? = some last → last.settles = false :=
    fun last found => unsettled last (List.mem_of_getLast? found)
  refine ⟨⟨[], by simp, .inl rfl⟩, ?_, ?_, ?_, ?_, ?_⟩
  · exact fun exchange member => unsettled exchange (List.dropLast_subset all member)
  · intro other
    constructor
    · intro ended
      cases ended
    · rintro ⟨_, attempt, last⟩
      cases never _ last
  · intro attempt cause last fatal
    have passed := never _ last
    cases attempt with
    | agentKey key => exact absurd rfl (fatal key)
    | _ => cases passed
  · intro attempt last
    cases never _ last
  · exact ⟨fun _ => .inl ⟨rfl, unsettled⟩, fun _ => rfl⟩

/-- The exchange held last settles the matter. -/
theorem Settled.of_decisive {limit : ConnectionFailure} (limited : limit ≠ .authenticationFailed)
    {front pending : List Exchange} {decisive : Exchange}
    (unsettled : ∀ exchange ∈ front, exchange.settles = false) (settles : decisive.settles = true)
    (owned : decisive.outcome = .failed .authenticationFailed →
      ∃ method, decisive.attempt = .callerMethod method) :
    Settled limit () (front ++ decisive :: pending) (front ++ [decisive])
      (verdict limit decisive.outcome) := by
  rcases decisive with ⟨attempt, outcome⟩
  have last : (front ++ [Exchange.mk attempt outcome]).getLast? = some ⟨attempt, outcome⟩ :=
    List.getLast?_concat ..
  refine ⟨⟨pending, by simp, .inr ⟨_, last, settles⟩⟩, ?_, ?_, ?_, ?_, ?_⟩
  · rw [List.dropLast_concat]
    exact unsettled
  · intro other
    cases outcome <;> simp [last, verdict]
  · intro tried cause same _
    rw [last] at same
    cases same
    rfl
  · intro tried same
    rw [last] at same
    cases same
    rfl
  · rw [last]
    constructor
    · intro ended
      cases outcome with
      | accepted => cases ended
      | rejected => cases settles
      | failed cause =>
          cases ended
          obtain ⟨method, rfl⟩ := owned rfl
          exact .inr ⟨method, rfl⟩
      | silent => exact absurd (Except.error.inj ended) limited
    · rintro (⟨_, all⟩ | ⟨method, same⟩)
      · have passed := all ⟨attempt, outcome⟩ (by simp)
        rw [settles] at passed
        cases passed
      · cases same
        rfl

/-- Only a method of the caller fails in another way than by a fault of the session. -/
theorem Attempt.callerMethod_of_failed {attempt : Attempt} {answer : AttemptAnswer attempt.Fault}
    {cause : ConnectionFailure} (failed : attempt.outcome answer = .failed cause)
    (apart : ∀ fault, cause ≠ .brokenSession fault) : ∃ method, attempt = .callerMethod method := by
  obtain ⟨fault, _, same⟩ := Attempt.outcome_eq_failed failed
  cases attempt with
  | callerMethod method => exact ⟨method, rfl⟩
  | agentKey key => exact absurd same.symm (apart fault)
  | signingKey key hash => exact absurd same.symm (apart fault)
  | password text => exact absurd same.symm (apart fault)

theorem attemptsOf_append (events more : List Event) :
    attemptsOf (events ++ more) = attemptsOf events ++ attemptsOf more :=
  List.filterMap_append ..

theorem attemptsOf_map_event (held : List Exchange) :
    attemptsOf (held.map Exchange.event) = held.map Exchange.attempt := by
  induction held with
  | nil => rfl
  | cons exchange rest ih =>
      rw [List.map_cons, List.map_cons, ← ih]
      rfl

/-- Making attempts in order holds exchanges up to the one that settles the matter. -/
theorem attemptAll_settled {around : Surroundings σ} {user : Text} {expire : Run σ Unit}
    {limit : ConnectionFailure} (limited : limit ≠ .authenticationFailed)
    (expires : ∀ state, (expire state).result = .error limit)
    (quiet : ∀ state, attemptsOf (expire state).events = []) (plan : List Attempt) (state : σ) :
    ∃ held,
      Settled limit () (exchanges around user plan state) held
          (attemptAll around user expire plan state).result ∧
        attemptsOf (attemptAll around user expire plan state).events =
          held.map Exchange.attempt := by
  rcases attemptAll_cases around user expire plan state with
    ⟨unsettled, last, vain⟩ | ⟨front, decisive, pending, between, split, unsettled, settles, run⟩
  · refine ⟨exchanges around user plan state, ?_, ?_⟩
    · rw [vain]
      exact .of_vain unsettled
    · rw [vain]
      exact attemptsOf_map_event _
  · have member : decisive ∈ exchanges around user plan state := by simp [split]
    obtain ⟨_, later, answered⟩ := outcome_of_mem_exchanges member
    refine ⟨front ++ [decisive], ?_, ?_⟩
    · have concluded : (follow expire (Run.fail .authenticationFailed) decisive.outcome
          between).result = verdict limit decisive.outcome := by
        cases decisive.outcome with
        | silent => exact expires between
        | _ => rfl
      rw [split, run, Report.after_result, concluded]
      refine .of_decisive limited unsettled settles fun failed => ?_
      exact Attempt.callerMethod_of_failed (answered.symm.trans failed) (by simp)
    · have silent : attemptsOf (follow expire (Run.fail .authenticationFailed) decisive.outcome
          between).events = [] := by
        cases decisive.outcome with
        | silent => exact quiet between
        | _ => rfl
      rw [run, Report.after_events, attemptsOf_append, silent, List.append_nil]
      exact attemptsOf_map_event _

namespace Dial

/-- The attempts that a dial plans when its events show what the agent has listed and which keys have been
decoded, where decoded keys sign by a digest. -/
def planned (destination : Destination) (hash : Option SignatureHash) (events : List Event) :
    List Attempt :=
  plannedAttempts (listedIdentities events) (decodedKeys events) hash destination.password
    destination.callerMethods

variable {around : Surroundings σ} {destination : Destination} {start : σ}

/-- Behind the handshake a dial is the authentication. -/
theorem dial_of_authentication {prepared : Prepared} {process : Option Nat} {events : List Event}
    {state : σ}
    (reached : Reaches around destination start (.authentication prepared process) events state) :
    let authentication := authenticate around destination.user
      (expire around destination prepared.proxyLine) prepared.methods state
    (dial around destination start).result =
        authentication.result.map (fun _ => Session.mk process) ∧
      (dial around destination start).events = events ++ authentication.events := by
  rcases ended : authenticate around destination.user
      (expire around destination prepared.proxyLine) prepared.methods state with
    ⟨failure | _, more, last⟩
  · have failed : (Point.authentication prepared process).perform around destination state =
        ⟨.error failure, more, last⟩ := Run.bind_of_error ended
    rw [dial_of_failure reached failed]
    exact ⟨rfl, rfl⟩
  · have connected : (Point.authentication prepared process).perform around destination state =
        ⟨.ok (.connected ⟨process⟩), more, last⟩ := by
      refine (Run.bind_of_ok ended).trans ?_
      simp [Report.after]
    rw [dial_of_connected (reached.next connected)]
    exact ⟨rfl, rfl⟩

/-- The events of a dial show what its keys have decoded to and what the agent has listed. -/
structure Equipped (around : Surroundings σ) (destination : Destination) (events : List Event) :
    Prop where
  keys : KeysFound around destination (decodedKeys events) events
  agent : AgentFound destination (listedIdentities events) events

/-- The attempts of a dial that signs by a digest and begins them in a state: what is planned, what is held
of it, and what comes of it. -/
structure InOrder (around : Surroundings σ) (destination : Destination) (process : Option Nat)
    (hash : Option SignatureHash) (state : σ) (report : Report σ Session)
    (held : List Exchange) : Prop extends Equipped around destination report.events where
  settled : Settled (limitFailure destination) ⟨process⟩
    (exchanges around destination.user (planned destination hash report.events) state) held
    report.result
  attempts : attemptsOf report.events = held.map Exchange.attempt
  begins : attemptsOf report.events <+: planned destination hash report.events
  agentOnly : listedIdentities report.events ≠ [] →
    ∀ key other, .signingKey key other ∉ attemptsOf report.events

/-- A dial that has keys to offer and is not told by which digest to sign, so that it attempts nothing. -/
structure Unsigned (around : Surroundings σ) (destination : Destination) (state : σ)
    (report : Report σ Session) : Prop extends Equipped around destination report.events where
  asked : AsksHash (listedIdentities report.events) (decodedKeys report.events)
  lost : ∃ failure, HashLost around (limitFailure destination) state failure ∧
    report.result = .error failure
  attempts : attemptsOf report.events = []

theorem limitFailure_ne (destination : Destination) :
    limitFailure destination ≠ .authenticationFailed := by
  unfold limitFailure
  split <;> simp

/-- The end of a proxy is no attempt. -/
theorem expire_attemptsOf (proxyLine : Option Text) (state : σ) :
    attemptsOf (expire around destination proxyLine state).events = [] := by
  cases proxyLine <;> rfl

/-- No decoded key is planned beside the keys of an agent. -/
theorem signingKey_not_mem_planned {hash : Option SignatureHash} {events : List Event}
    (listed : listedIdentities events ≠ []) (key : SigningKey) (other : Option SignatureHash) :
    .signingKey key other ∉ planned destination hash events := by
  simp [planned, plannedAttempts, listed]

/-- What the events on the way to the authentication show is what the events of the dial show. -/
theorem Reaches.equipped {prepared : Prepared} {process : Option Nat} {events : List Event}
    {state : σ}
    (reached : Reaches around destination start (.authentication prepared process) events state) :
    Equipped around destination (dial around destination start).events ∧
      prepared.methods = selectMethods
        (listedIdentities (dial around destination start).events)
        (decodedKeys (dial around destination start).events) destination.password
        destination.callerMethods := by
  obtain ⟨_, seen⟩ := dial_of_authentication reached
  -- the authentication shows no keys, neither decoded ones nor those of the agent
  have whole : Prepares around destination prepared (dial around destination start).events := by
    rw [seen]
    exact reached.found.1.append (authenticate_emits _ _ _ _ _ state) (by decide) (by decide)
  exact ⟨⟨whole.keys, whole.agent⟩, whole.methods⟩

theorem Reaches.inOrder {prepared : Prepared} {process : Option Nat} {events : List Event}
    {state later : σ} {hash : Option SignatureHash}
    (reached : Reaches around destination start (.authentication prepared process) events state)
    (settled : HashSettled around (listedIdentities (dial around destination start).events)
      (decodedKeys (dial around destination start).events) state hash later) :
    ∃ held, InOrder around destination process hash later (dial around destination start)
      held := by
  obtain ⟨equipped, methods⟩ := reached.equipped
  obtain ⟨result, seen⟩ := dial_of_authentication reached
  have unattempted : attemptsOf events = [] := reached.unattempted (Nat.le_refl _)
  rw [methods, authenticate_of_settled settled] at result seen
  obtain ⟨held, concluded, attempts⟩ := attemptAll_settled (limitFailure_ne destination)
    reached.found.1.proxy.expire_result (expire_attemptsOf prepared.proxyLine)
    (planned destination hash (dial around destination start).events) later
  have made : attemptsOf (dial around destination start).events =
      held.map Exchange.attempt := by
    rw [seen, attemptsOf_append, unattempted]
    exact attempts
  have begins : attemptsOf (dial around destination start).events <+:
      planned destination hash (dial around destination start).events := by
    obtain ⟨pending, split, _⟩ := concluded.through
    have attempted := map_attempt_exchanges around destination.user
      (planned destination hash (dial around destination start).events) later
    refine ⟨pending.map Exchange.attempt, ?_⟩
    rw [made, ← List.map_append, ← split, attempted]
  refine ⟨held, equipped, ?_, made, begins, ?_⟩
  · rw [result]
    exact concluded.map fun _ => Session.mk process
  · intro listed key other attempted
    exact signingKey_not_mem_planned listed key other (begins.subset attempted)

theorem Reaches.unsigned {prepared : Prepared} {process : Option Nat} {events : List Event}
    {state : σ} {failure : ConnectionFailure}
    (reached : Reaches around destination start (.authentication prepared process) events state)
    (asked : AsksHash (listedIdentities (dial around destination start).events)
      (decodedKeys (dial around destination start).events))
    (lost : HashLost around (limitFailure destination) state failure) :
    Unsigned around destination state (dial around destination start) := by
  obtain ⟨equipped, methods⟩ := reached.equipped
  obtain ⟨result, seen⟩ := dial_of_authentication reached
  have unattempted : attemptsOf events = [] := reached.unattempted (Nat.le_refl _)
  obtain ⟨failed, quiet⟩ := authenticate_of_lost destination.user asked lost
    reached.found.1.proxy.expire_result destination.password destination.callerMethods
  rw [← methods] at failed quiet
  refine ⟨equipped, asked, ⟨failure, lost, by rw [result, failed]; rfl⟩, ?_⟩
  rw [seen, attemptsOf_append, unattempted]
  rcases quiet with none | expired
  · rw [none]
    rfl
  · rw [expired]
    exact expire_attemptsOf prepared.proxyLine _

/-- Behind the handshake a dial attempts what is planned, in order, up to the first attempt that settles
the matter, and ends as that attempt ends. Where decoded keys are planned, the peer has told before by
which digest they sign; a peer that does not tell ends the dial, and nothing is attempted. -/
theorem attempts_in_order {prepared : Prepared} {process : Option Nat} {events : List Event}
    {state : σ}
    (reached : Reaches around destination start (.authentication prepared process) events state) :
    let report := dial around destination start
    (∃ hash later held,
      HashSettled around (listedIdentities report.events) (decodedKeys report.events) state hash
          later ∧
        InOrder around destination process hash later report held) ∨
      Unsigned around destination state report := by
  intro report
  rcases hash_cases around (listedIdentities report.events) (decodedKeys report.events)
      (limitFailure destination) state with ⟨hash, later, settled⟩ | ⟨asked, failure, lost⟩
  · obtain ⟨held, inOrder⟩ := reached.inOrder settled
    exact .inl ⟨hash, later, held, settled, inOrder⟩
  · exact .inr (reached.unsigned asked lost)

/-- A key that an agent lists. -/
def agentIdentity : PublicKey := ⟨"ssh-ed25519".toList, [[1, 2, 3]]⟩

/-- The answers of a peer to a key that is not signed, to a password, and to a method of the caller. -/
def answerTo : (attempt : Attempt) → AttemptAnswer attempt.Fault
  | .agentKey _ => .failed .ended
  | .signingKey _ _ => .silent
  | .password _ => .rejected
  | .callerMethod _ => .accepted

/-- A peer that answers so and keeps what has been attempted, behind an agent with one key. -/
def answering : Surroundings (List Attempt) :=
  { Surroundings.deserted with
    reachAgent := fun _ made => (.ok (), made)
    listAgentKeys := fun made => (.ok [agentIdentity], made)
    openStream := fun _ _ _ made => (.opened, made)
    greet := fun made => (.presents agentIdentity, made)
    agree := fun made => (.reached, made)
    attempt := fun _ attempt made => (answerTo attempt, made ++ [attempt]) }

/-- A destination with an agent, a password and two methods of the caller. -/
def wellEquipped : Destination :=
  { Destination.direct "example".toList "user".toList 22 with
    useAgent := true
    agentSocket := some ⟨"/agent".toList⟩
    password := some "secret".toList
    callerMethods := [⟨"first".toList, .accept⟩, ⟨"second".toList, .accept⟩] }

/-- What the dial to such a destination has found when it gets to the authentication. -/
def wellPrepared : Prepared where
  verifier := ⟨"example".toList, 22, .acceptAny⟩
  methods :=
    [.agent [agentIdentity], .password "secret".toList, .caller ⟨"first".toList, .accept⟩,
      .caller ⟨"second".toList, .accept⟩]
  proxyLine := none

theorem attempts_in_order_unsigned :
    let report := dial answering wellEquipped []
    Reaches answering wellEquipped [] (.authentication wellPrepared none)
        [.agentListed [agentIdentity], .hostListsOpened [], .streamRequested "example".toList 22,
          .hostKeyChecked agentIdentity true] [] ∧
      ((∃ hash later held,
        HashSettled answering (listedIdentities report.events) (decodedKeys report.events) [] hash
            later ∧
          InOrder answering wellEquipped none hash later report held) ∨
        Unsigned answering wellEquipped [] report) ∧
        attemptsOf report.events =
          [.agentKey agentIdentity, .password "secret".toList,
            .callerMethod ⟨"first".toList, .accept⟩] := by
  have reached : Reaches answering wellEquipped [] (.authentication wellPrepared none)
      [.agentListed [agentIdentity], .hostListsOpened [], .streamRequested "example".toList 22,
        .hostKeyChecked agentIdentity true] [] :=
    Reaches.start.of_advance 6 rfl
  exact ⟨reached, attempts_in_order reached, by decide⟩

end Dial

end SecureShell
