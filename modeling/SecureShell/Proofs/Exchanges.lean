/-
Module: SecureShell.Proofs.Exchanges
Purpose: Authentication as one conversation with the peer. Once it is settled by which digest decoded keys
  sign, the methods with their loops make the attempts of a single list one after the other, up to the
  first exchange that settles the matter, and what that exchange comes to is what the authentication comes
  to.
Main exports: Exchange, Exchange.settles, plannedAttempts, exchanges, attemptAll, AsksHash, HashSettled,
  HashLost, hash_cases, authenticate_of_settled, attemptAll_cases
-/
import SecureShell.Proofs.DialEvents

namespace SecureShell

variable {σ : Type}

/-- An attempt and what it comes to. -/
structure Exchange where
  attempt : Attempt
  outcome : AttemptOutcome
deriving DecidableEq, Repr

namespace Exchange

/-- Whether nothing is attempted any more behind an exchange. A key of the agent that fails is passed
over. -/
def settles : Exchange → Bool
  | ⟨_, .accepted⟩ => true
  | ⟨_, .rejected⟩ => false
  | ⟨.agentKey _, .failed _⟩ => false
  | ⟨_, .failed _⟩ => true
  | ⟨_, .silent⟩ => true

/-- What is seen of an exchange. -/
def event (exchange : Exchange) : Event :=
  .attempted exchange.attempt

end Exchange

/-- An attempt fails for the connection when it has failed, and by what its fault makes of it. -/
theorem Attempt.outcome_eq_failed {attempt : Attempt} {answer : AttemptAnswer attempt.Fault}
    {cause : ConnectionFailure} (failed : attempt.outcome answer = .failed cause) :
    ∃ fault, answer = .failed fault ∧ attempt.failure fault = cause := by
  cases answer with
  | failed fault => exact ⟨fault, rfl, AttemptAnswer.failed.inj failed⟩
  | accepted => cases failed
  | rejected => cases failed
  | silent => cases failed

/-- The attempts that a method stands for, where decoded keys sign by a digest. -/
def Method.attempts (hash : Option SignatureHash) : Method → List Attempt
  | .agent identities => identities.map .agentKey
  | .signers keys => keys.map (.signingKey · hash)
  | .password text => [.password text]
  | .caller method => [.callerMethod method]

/-- The attempts of a connection in order: the keys of the agent, or the decoded keys when the agent has
none, each with the digest to sign by; then the password, then the methods of the caller. -/
def plannedAttempts (identities : List PublicKey) (signers : List SigningKey)
    (hash : Option SignatureHash) (password : Option Text) (callerMethods : List CallerMethod) :
    List Attempt :=
  (if identities = [] then signers.map (.signingKey · hash) else identities.map .agentKey)
    ++ password.toList.map .password ++ callerMethods.map .callerMethod

/-- The exchange that an answer to an attempt makes. The fault of a session breaks it, whatever was
attempted, and a method of the caller fails as it says. -/
def Exchange.ofAnswer : (attempt : Attempt) → AttemptAnswer attempt.Fault → Exchange
  | attempt, .accepted => ⟨attempt, .accepted⟩
  | attempt, .rejected => ⟨attempt, .rejected⟩
  | attempt, .silent => ⟨attempt, .silent⟩
  | .agentKey key, .failed fault => ⟨.agentKey key, .failed (.brokenSession fault)⟩
  | .signingKey key hash, .failed fault => ⟨.signingKey key hash, .failed (.brokenSession fault)⟩
  | .password text, .failed fault => ⟨.password text, .failed (.brokenSession fault)⟩
  | .callerMethod method, .failed failure => ⟨.callerMethod method, .failed failure⟩

theorem Exchange.ofAnswer_eq (attempt : Attempt) (answer : AttemptAnswer attempt.Fault) :
    ofAnswer attempt answer = ⟨attempt, attempt.outcome answer⟩ := by
  cases answer with
  | failed fault => cases attempt <;> rfl
  | accepted => cases attempt <;> rfl
  | rejected => cases attempt <;> rfl
  | silent => cases attempt <;> rfl

/-- What all attempts would come to if they were made one after the other. -/
def exchanges (around : Surroundings σ) (user : Text) : List Attempt → σ → List Exchange
  | [], _ => []
  | attempt :: rest, state =>
      let reply := around.attempt user attempt state
      .ofAnswer attempt reply.1 :: exchanges around user rest reply.2

/-- What follows on an outcome. `next` is what happens when there is more to try. -/
def follow (expire next : Run σ Unit) : AttemptOutcome → Run σ Unit
  | .accepted => pure ()
  | .rejected => next
  | .failed cause => Run.fail cause
  | .silent => expire

/-- Makes attempts in order until one settles the matter. -/
def attemptAll (around : Surroundings σ) (user : Text) (expire : Run σ Unit) :
    List Attempt → Run σ Unit
  | [] => Run.fail .authenticationFailed
  | attempt :: rest => do
      let outcome ← tryAttempt around user attempt
      if (Exchange.mk attempt outcome).settles then
        follow expire (Run.fail .authenticationFailed) outcome
      else attemptAll around user expire rest

/-- Whether a peer is asked by which digest to sign: there are decoded keys, and none of the agent. -/
def AsksHash (identities : List PublicKey) (signers : List SigningKey) : Prop :=
  identities = [] ∧ signers ≠ []

/-- The digest by which decoded keys sign, and the state in which the attempts begin. Where nobody asks for
a digest nothing has happened yet. -/
inductive HashSettled (around : Surroundings σ) (identities : List PublicKey)
    (signers : List SigningKey) (state : σ) : Option SignatureHash → σ → Prop where
  | unasked (idle : ¬ AsksHash identities signers) :
      HashSettled around identities signers state none state
  | told {hash : Option SignatureHash} (asked : AsksHash identities signers)
      (reply : (around.signatureHash state).1 = .told hash) :
      HashSettled around identities signers state hash (around.signatureHash state).2

/-- The question for the digest ends the authentication before the first attempt. -/
inductive HashLost (around : Surroundings σ) (limit : ConnectionFailure) (state : σ) :
    ConnectionFailure → Prop where
  | broken {fault : SessionFault} (reply : (around.signatureHash state).1 = .broken fault) :
      HashLost around limit state (.brokenSession fault)
  | silent (reply : (around.signatureHash state).1 = .silent) :
      HashLost around limit state limit

variable {around : Surroundings σ} {user : Text} {expire : Run σ Unit}

/-! ### The methods of a connection are one list of attempts -/

theorem keyMethod_attempts (identities : List PublicKey) (signers : List SigningKey)
    (hash : Option SignatureHash) :
    (keyMethod identities signers).flatMap (Method.attempts hash) =
      if identities = [] then signers.map (.signingKey · hash)
      else identities.map .agentKey := by
  cases identities with
  | nil =>
      cases signers with
      | nil => rfl
      | cons signer others => simp [keyMethod, Method.attempts]
  | cons identity others => simp [keyMethod, Method.attempts]

theorem selectMethods_attempts (identities : List PublicKey) (signers : List SigningKey)
    (hash : Option SignatureHash) (password : Option Text) (callerMethods : List CallerMethod) :
    (selectMethods identities signers password callerMethods).flatMap (Method.attempts hash) =
      plannedAttempts identities signers hash password callerMethods := by
  have passwords : (password.toList.map Method.password).flatMap (Method.attempts hash) =
      password.toList.map .password := by
    cases password <;> rfl
  have methods : (callerMethods.map Method.caller).flatMap (Method.attempts hash) =
      callerMethods.map .callerMethod := by
    simp [List.flatMap_map, Method.attempts, ← List.map_eq_flatMap]
  rw [selectMethods, List.flatMap_append, List.flatMap_append, keyMethod_attempts, passwords,
    methods, plannedAttempts]

section Planned

variable {identities : List PublicKey} {signers : List SigningKey} {hash : Option SignatureHash}
  {password : Option Text} {callerMethods : List CallerMethod}

theorem signer_of_mem_plannedAttempts {signer : SigningKey} {other : Option SignatureHash}
    (planned : .signingKey signer other ∈
      plannedAttempts identities signers hash password callerMethods) : signer ∈ signers := by
  rw [plannedAttempts] at planned
  split at planned
  · obtain ⟨_, member, rfl, _⟩ : ∃ key ∈ signers, key = signer ∧ hash = other := by
      simpa using planned
    exact member
  · simp at planned

theorem password_of_mem_plannedAttempts {text : Text}
    (planned : .password text ∈
      plannedAttempts identities signers hash password callerMethods) : password = some text := by
  rw [plannedAttempts] at planned
  split at planned <;> simpa using planned

theorem method_of_mem_plannedAttempts {method : CallerMethod}
    (planned : .callerMethod method ∈
      plannedAttempts identities signers hash password callerMethods) :
    method ∈ callerMethods := by
  rw [plannedAttempts] at planned
  split at planned <;> simpa using planned

end Planned

theorem offerIdentities_follow (identities : List PublicKey) (rest : List Attempt) :
    (offerIdentities around user identities >>=
        follow expire (attemptAll around user expire rest)) =
      attemptAll around user expire (identities.map .agentKey ++ rest) := by
  induction identities with
  | nil => rfl
  | cons key others ih =>
      rw [offerIdentities, bind_assoc]
      refine congrArg (tryAttempt around user _ >>= ·) (funext fun outcome => ?_)
      cases outcome with
      | accepted => rfl
      | rejected => exact ih
      | failed cause => exact ih
      | silent => rfl

theorem offerSigners_follow (hash : Option SignatureHash) (signers : List SigningKey)
    (rest : List Attempt) :
    (offerSigners around user hash signers >>=
        follow expire (attemptAll around user expire rest)) =
      attemptAll around user expire (signers.map (.signingKey · hash) ++ rest) := by
  induction signers with
  | nil => rfl
  | cons key others ih =>
      rw [offerSigners, bind_assoc]
      refine congrArg (tryAttempt around user _ >>= ·) (funext fun outcome => ?_)
      cases outcome with
      | accepted => rfl
      | rejected => exact ih
      | failed cause => rfl
      | silent => rfl

theorem tryAttempt_follow {attempt : Attempt} (fatal : ∀ key, attempt ≠ .agentKey key)
    (rest : List Attempt) :
    (tryAttempt around user attempt >>= follow expire (attemptAll around user expire rest)) =
      attemptAll around user expire (attempt :: rest) := by
  refine congrArg (tryAttempt around user attempt >>= ·) (funext fun outcome => ?_)
  cases outcome with
  | accepted => rfl
  | rejected => rfl
  | silent => rfl
  | failed cause =>
      cases attempt with
      | agentKey key => exact absurd rfl (fatal key)
      | signingKey key hash => rfl
      | password text => rfl
      | callerMethod method => rfl

/-- A method that needs no digest makes its attempts in order. -/
theorem Method.use_follow {method : Method} (unsigned : ∀ keys, method ≠ .signers keys)
    (hash : Option SignatureHash) (rest : List Attempt) :
    (method.use around user >>= follow expire (attemptAll around user expire rest)) =
      attemptAll around user expire (method.attempts hash ++ rest) := by
  cases method with
  | agent identities => exact offerIdentities_follow identities rest
  | signers keys => exact absurd rfl (unsigned keys)
  | password text => exact tryAttempt_follow (by simp) rest
  | caller method => exact tryAttempt_follow (by simp) rest

theorem authenticate_cons (method : Method) (rest : List Method) :
    authenticate around user expire (method :: rest) =
      method.use around user >>= follow expire (authenticate around user expire rest) := by
  refine congrArg (method.use around user >>= ·) (funext fun outcome => ?_)
  cases outcome <;> rfl

/-- Using methods that need no digest is making all their attempts in order. -/
theorem authenticate_eq {methods : List Method} (unsigned : ∀ keys, .signers keys ∉ methods)
    (hash : Option SignatureHash) :
    authenticate around user expire methods =
      attemptAll around user expire (methods.flatMap (Method.attempts hash)) := by
  induction methods with
  | nil => rfl
  | cons method rest ih =>
      have first (keys : List SigningKey) : method ≠ .signers keys := by
        rintro rfl
        exact unsigned keys List.mem_cons_self
      have others (keys : List SigningKey) : .signers keys ∉ rest :=
        fun member => unsigned keys (List.mem_cons_of_mem _ member)
      rw [List.flatMap_cons, ← Method.use_follow first, ← ih others, authenticate_cons]

/-- Only keys that have been decoded need a digest, and only where the agent has none. -/
theorem signers_mem_selectMethods {identities : List PublicKey} {signers keys : List SigningKey}
    {password : Option Text} {callerMethods : List CallerMethod}
    (selected : .signers keys ∈ selectMethods identities signers password callerMethods) :
    AsksHash identities signers := by
  cases identities with
  | cons identity others => simp [selectMethods, keyMethod] at selected
  | nil =>
      cases signers with
      | nil => simp [selectMethods, keyMethod] at selected
      | cons signer others => simp [AsksHash]

/-- Where the peer is asked for a digest, the question comes first of all. -/
theorem authenticate_of_asked {identities : List PublicKey} {signers : List SigningKey}
    (asked : AsksHash identities signers) (password : Option Text)
    (callerMethods : List CallerMethod) :
    authenticate around user expire (selectMethods identities signers password callerMethods) =
      (do
        match ← Run.ask around.signatureHash with
        | .told hash =>
            attemptAll around user expire
              (plannedAttempts identities signers hash password callerMethods)
        | .broken fault => Run.fail (.brokenSession fault)
        | .silent => expire) := by
  obtain ⟨rfl, present⟩ := asked
  obtain ⟨signer, others, rfl⟩ := List.exists_cons_of_ne_nil present
  let rest := password.toList.map Method.password ++ callerMethods.map Method.caller
  have unsigned (keys : List SigningKey) : .signers keys ∉ rest := by simp [rest]
  have whole : selectMethods [] (signer :: others) password callerMethods =
      .signers (signer :: others) :: rest := by
    simp [selectMethods, keyMethod, rest]
  rw [whole, authenticate_cons]
  refine (bind_assoc _ _ _).trans ?_
  refine congrArg (Run.ask around.signatureHash >>= ·) (funext fun answer => ?_)
  cases answer with
  | told hash =>
      dsimp only
      rw [← selectMethods_attempts, whole, List.flatMap_cons, authenticate_eq unsigned hash]
      exact offerSigners_follow hash _ _
  | broken fault => rfl
  | silent => rfl

/-- Once the digest is settled, using the methods of a connection is making all attempts in order. -/
theorem authenticate_of_settled {identities : List PublicKey} {signers : List SigningKey}
    {state later : σ} {hash : Option SignatureHash}
    (settled : HashSettled around identities signers state hash later) (password : Option Text)
    (callerMethods : List CallerMethod) :
    authenticate around user expire (selectMethods identities signers password callerMethods)
        state =
      attemptAll around user expire
        (plannedAttempts identities signers hash password callerMethods) later := by
  cases settled with
  | unasked idle =>
      rw [← selectMethods_attempts]
      exact congrFun (authenticate_eq (fun keys selected =>
        idle (signers_mem_selectMethods selected)) none) state
  | told asked reply => rw [authenticate_of_asked asked, Run.ask_bind, reply]

/-- A digest that nobody tells ends the authentication. -/
theorem authenticate_of_lost (user : Text) {identities : List PublicKey}
    {signers : List SigningKey} {state : σ} {limit failure : ConnectionFailure}
    (asked : AsksHash identities signers)
    (lost : HashLost around limit state failure)
    (expires : ∀ state, (expire state).result = .error limit) (password : Option Text)
    (callerMethods : List CallerMethod) :
    let report := authenticate around user expire
      (selectMethods identities signers password callerMethods) state
    report.result = .error failure ∧
      (report.events = [] ∨ report.events = (expire (around.signatureHash state).2).events) := by
  rw [authenticate_of_asked asked, Run.ask_bind]
  cases lost with
  | broken reply =>
      rw [reply]
      exact ⟨rfl, .inl rfl⟩
  | silent reply =>
      rw [reply]
      exact ⟨expires _, .inr rfl⟩

/-- Either the digest is settled before the attempts, or the question for it has ended the
authentication. -/
theorem hash_cases (around : Surroundings σ) (identities : List PublicKey)
    (signers : List SigningKey) (limit : ConnectionFailure) (state : σ) :
    (∃ hash later, HashSettled around identities signers state hash later) ∨
      AsksHash identities signers ∧ ∃ failure, HashLost around limit state failure := by
  by_cases asked : AsksHash identities signers
  · cases reply : (around.signatureHash state).1 with
    | told hash => exact .inl ⟨hash, _, .told asked reply⟩
    | broken fault => exact .inr ⟨asked, _, .broken reply⟩
    | silent => exact .inr ⟨asked, _, .silent reply⟩
  · exact .inl ⟨none, state, .unasked asked⟩

/-! ### The conversation -/

theorem tryAttempt_apply (attempt : Attempt) (state : σ) :
    tryAttempt around user attempt state =
      ⟨.ok (attempt.outcome (around.attempt user attempt state).1), [.attempted attempt],
        (around.attempt user attempt state).2⟩ := rfl

/-- Every attempt of a list has its exchange. -/
theorem map_attempt_exchanges (around : Surroundings σ) (user : Text) (plan : List Attempt)
    (state : σ) :
    (exchanges around user plan state).map Exchange.attempt = plan := by
  induction plan generalizing state with
  | nil => rfl
  | cons attempt rest ih => rw [exchanges, List.map_cons, ih, Exchange.ofAnswer_eq]

/-- An exchange is about an attempt of the list, and the peer has answered it. -/
theorem outcome_of_mem_exchanges {plan : List Attempt} {state : σ} {exchange : Exchange}
    (member : exchange ∈ exchanges around user plan state) :
    exchange.attempt ∈ plan ∧ ∃ between, exchange.outcome =
      exchange.attempt.outcome (around.attempt user exchange.attempt between).1 := by
  induction plan generalizing state with
  | nil => cases member
  | cons attempt rest ih =>
      rcases List.mem_cons.mp member with rfl | later
      · rw [Exchange.ofAnswer_eq]
        exact ⟨List.mem_cons_self, state, rfl⟩
      · obtain ⟨planned, answered⟩ := ih later
        exact ⟨List.mem_cons_of_mem _ planned, answered⟩

/-- Either no exchange settles the matter and all attempts are made in vain, or the first exchange that
settles it is the last one, and its outcome decides. -/
theorem attemptAll_cases (around : Surroundings σ) (user : Text) (expire : Run σ Unit)
    (plan : List Attempt) (state : σ) :
    ((∀ exchange ∈ exchanges around user plan state, exchange.settles = false) ∧
        ∃ last, attemptAll around user expire plan state =
          ⟨.error .authenticationFailed, (exchanges around user plan state).map Exchange.event,
            last⟩) ∨
      ∃ front decisive pending between,
        exchanges around user plan state = front ++ decisive :: pending ∧
          (∀ exchange ∈ front, exchange.settles = false) ∧ decisive.settles = true ∧
            attemptAll around user expire plan state =
              (follow expire (Run.fail .authenticationFailed) decisive.outcome between).after
                ((front ++ [decisive]).map Exchange.event) := by
  induction plan generalizing state with
  | nil => exact .inl ⟨by simp [exchanges], state, rfl⟩
  | cons attempt rest ih =>
      let reply := around.attempt user attempt state
      let exchange : Exchange := .ofAnswer attempt reply.1
      have whole : attemptAll around user expire (attempt :: rest) state =
          ((if exchange.settles then
              follow expire (Run.fail .authenticationFailed) exchange.outcome
            else attemptAll around user expire rest) reply.2).after [exchange.event] := by
        simp only [exchange, Exchange.ofAnswer_eq]
        exact Run.bind_of_ok (tryAttempt_apply attempt state)
      cases settled : exchange.settles with
      | true =>
          refine .inr ⟨[], exchange, exchanges around user rest reply.2, reply.2, rfl, by simp,
            settled, ?_⟩
          rw [whole, settled]
          rfl
      | false =>
          simp only [settled, Bool.false_eq_true, if_false] at whole
          rcases ih reply.2 with
            ⟨unsettled, last, vain⟩ |
            ⟨front, decisive, pending, between, split, unsettled, decided, run⟩
          · refine .inl ⟨List.forall_mem_cons.mpr ⟨settled, unsettled⟩, last, ?_⟩
            rw [whole, vain]
            rfl
          · refine .inr ⟨exchange :: front, decisive, pending, between, ?_,
              List.forall_mem_cons.mpr ⟨settled, unsettled⟩, decided, ?_⟩
            · rw [exchanges, split]
              rfl
            · rw [whole, run, Report.after_after]
              rfl

end SecureShell
