/-
Module: SecureShell.Proofs.DialFailures
Purpose: The ways in which the steps of a dial fail, each with what its surroundings have done to it. A step
  that fails fails in a way of its own; the end of a time limit is a way of the steps that are limited.
Main exports: KeyMaterial.Refused, Dial.limitFailure, Dial.FailureOf, Dial.Reaches.failure
-/
import SecureShell.Proofs.DialFindings
import SecureShell.Proofs.Exchanges
import SecureShell.Proofs.HostKeyPolicy

namespace SecureShell

variable {σ : Type}

/-- The ways in which a key cannot be used. -/
inductive KeyMaterial.Refused (around : Surroundings σ) (prompting : Bool) (key : KeyMaterial) :
    KeyRefusal → Prop where
  | notText {fault : Utf8.Fault} (unreadable : Utf8.decode key.content = .error fault) :
      Refused around prompting key .notText
  | undecodable {text : Text} {passphrase : Option Text} {fault : KeyFault}
      (readable : Utf8.decode key.content = .ok text)
      (undecoded : around.decodeKey text passphrase = .error fault) :
      Refused around prompting key (.undecodable fault)
  | passphraseUnread {state : σ} {cause : SystemError} (asking : prompting = true)
      (unanswered : (around.askPassphrase key.question state).1 = .error cause) :
      Refused around prompting key (.passphraseUnread cause)

namespace Dial

/-- The failure that the end of the time limit is. -/
def limitFailure (destination : Destination) : ConnectionFailure :=
  match destination.proxy with
  | none => .connectTimeout destination.connectLimit
  | some _ => .proxyTimeout destination.proxyLimit

/-- The ways in which each step fails. -/
inductive FailureOf (around : Surroundings σ) (destination : Destination) :
    Step → ConnectionFailure → Prop where
  | keyRefused {key : KeyMaterial} {refusal : KeyRefusal} (wanted : key ∈ destination.keys)
      (refused : key.Refused around destination.promptPassphrase refusal) :
      FailureOf around destination .keys
        (.unusableKey (key.path.elim "(inline key)".toList Path.text) refusal)
  | agentUnreachable {socket : Path} {state : σ} {cause : SystemError}
      (known : destination.agentSocket = some socket) (wanted : destination.useAgent = true)
      (unreached : (around.reachAgent socket state).1 = .error cause) :
      FailureOf around destination .agent (.agentUnreachable socket cause)
  | agentUnlisted {socket : Path} {state : σ} {cause : SystemError}
      (known : destination.agentSocket = some socket) (wanted : destination.useAgent = true)
      (unlisted : (around.listAgentKeys state).1 = .error cause) :
      FailureOf around destination .agent (.agentUnlisted cause)
  | listUnopened {path : Path} {cause : SystemError}
      (first : HostKeyVerifier.FirstUnopened around.files destination.knownHosts path cause) :
      FailureOf around destination .hostLists (.unopenedKnownHosts path cause)
  | proxyUnresolved {proxy : Proxy} {cause : ConfigFailure}
      (proxied : destination.proxy = some proxy)
      (unresolved : proxy.commandFor destination.user destination.port destination.hostname =
        .error cause) :
      FailureOf around destination .proxyCommand (.configuration cause)
  | dialerRefused {dialer : CustomDialer} {state : σ} {cause : SystemError}
      (direct : destination.proxy = none) (given : destination.customDialer = some dialer)
      (refused : (around.openStream (some dialer) destination.hostname destination.port
        state).1 = .refused cause) :
      FailureOf around destination .opening
        (.dialerFailed destination.hostname destination.port cause)
  | networkRefused {state : σ} {cause : SystemError} (direct : destination.proxy = none)
      (plain : destination.customDialer = none)
      (refused : (around.openStream none destination.hostname destination.port state).1 =
        .refused cause) :
      FailureOf around destination .opening
        (.unreachable destination.hostname destination.port cause)
  | streamExpired (direct : destination.proxy = none) :
      FailureOf around destination .opening (limitFailure destination)
  | proxyUnstarted {proxy : Proxy} {line : Text} {state : σ} {cause : SystemError}
      (proxied : destination.proxy = some proxy)
      (resolved : proxy.commandFor destination.user destination.port destination.hostname =
        .ok line)
      (unstarted : (around.startProxy line destination.proxyDirectory destination.proxyLimit
        state).1 = .error cause) :
      FailureOf around destination .opening (.proxyNotStarted line cause)
  | greetingBroken {state : σ} {fault : SessionFault}
      (broken : (around.greet state).1 = .breaks fault) :
      FailureOf around destination .handshake (.brokenSession fault)
  | agreementBroken {state : σ} {fault : SessionFault}
      (broken : (around.agree state).1 = .breaks fault) :
      FailureOf around destination .handshake (.brokenSession fault)
  | hostKeyRejected :
      FailureOf around destination .handshake
        (.hostKeyRejected destination.hostname destination.port)
  | handshakeExpired : FailureOf around destination .handshake (limitFailure destination)
  | noneAccepted : FailureOf around destination .authentication .authenticationFailed
  | hashBroken {state : σ} {fault : SessionFault} (wanted : destination.keys ≠ [])
      (broken : (around.signatureHash state).1 = .broken fault) :
      FailureOf around destination .authentication (.brokenSession fault)
  | keyBroken {key : KeyMaterial} {signer : SigningKey} {hash : Option SignatureHash} {state : σ}
      {fault : SessionFault} (wanted : key ∈ destination.keys)
      (decodes : Decodes around key signer)
      (broken : (around.attempt destination.user (.signingKey signer hash) state).1 =
        .failed fault) :
      FailureOf around destination .authentication (.brokenSession fault)
  | passwordBroken {text : Text} {state : σ} {fault : SessionFault}
      (given : destination.password = some text)
      (broken : (around.attempt destination.user (.password text) state).1 = .failed fault) :
      FailureOf around destination .authentication (.brokenSession fault)
  | methodFailed {method : CallerMethod} {state : σ} {cause : ConnectionFailure}
      (wanted : method ∈ destination.callerMethods)
      (failed : (around.attempt destination.user (.callerMethod method) state).1 = .failed cause) :
      FailureOf around destination .authentication cause
  | attemptExpired : FailureOf around destination .authentication (limitFailure destination)

variable {around : Surroundings σ} {destination : Destination} {start : σ}

/-! ### How each step fails -/

theorem askPassphrase_fails (key : KeyMaterial) :
    Run.FailsBy (fun failure => ∃ refusal, failure = .unusableKey key.label refusal ∧
      key.Refused around true refusal) (key.askPassphrase around) := by
  refine Run.failsBy_bind (Run.failsBy_record _) fun _ => Run.failsBy_ask_bind fun state => ?_
  cases answered : (around.askPassphrase key.question state).1 with
  | error cause => exact Run.failsBy_fail ⟨_, rfl, .passphraseUnread rfl answered⟩
  | ok answer => exact Run.failsBy_pure _

theorem load_fails (prompting : Bool) (key : KeyMaterial) :
    Run.FailsBy (fun failure => ∃ refusal, failure = .unusableKey key.label refusal ∧
      key.Refused around prompting refusal) (key.load around prompting) := by
  unfold KeyMaterial.load
  split
  · exact Run.failsBy_fail ⟨_, rfl, .notText ‹_›⟩
  · rename_i text readable
    split
    · exact Run.failsBy_bind (Run.failsBy_record _) fun _ => Run.failsBy_pure _
    · rename_i fault undecoded
      cases prompting with
      | false => exact Run.failsBy_fail ⟨_, rfl, .undecodable readable undecoded⟩
      | true =>
          refine Run.failsBy_bind (askPassphrase_fails key) fun answer => ?_
          split
          · exact Run.failsBy_bind (Run.failsBy_record _) fun _ => Run.failsBy_pure _
          · rename_i fault undecoded
            exact Run.failsBy_fail ⟨_, rfl, .undecodable readable undecoded⟩

theorem loadKeys_fails (prompting : Bool) (keys : List KeyMaterial) :
    Run.FailsBy (fun failure => ∃ key ∈ keys, ∃ refusal, failure = .unusableKey key.label refusal ∧
      key.Refused around prompting refusal) (loadKeys around prompting keys) := by
  induction keys with
  | nil => exact Run.failsBy_pure _
  | cons key rest ih =>
      refine Run.failsBy_bind ?_ fun decoded => Run.failsBy_bind ?_ fun others => Run.failsBy_pure _
      · intro state failure failed
        obtain ⟨refusal, same, refused⟩ := load_fails prompting key state failure failed
        exact ⟨key, List.mem_cons_self, refusal, same, refused⟩
      · intro state failure failed
        obtain ⟨other, member, rest⟩ := ih state failure failed
        exact ⟨other, List.mem_cons_of_mem _ member, rest⟩

theorem agentKeys_fails :
    Run.FailsBy (FailureOf around destination .agent) (agentKeys around destination) := by
  unfold agentKeys
  split
  · rename_i socket known wanted
    refine Run.failsBy_ask_bind fun state => ?_
    cases reached : (around.reachAgent socket state).1 with
    | error cause => exact Run.failsBy_fail (.agentUnreachable known wanted reached)
    | ok _ =>
        refine Run.failsBy_ask_bind fun state => ?_
        cases listed : (around.listAgentKeys state).1 with
        | error cause => exact Run.failsBy_fail (.agentUnlisted known wanted listed)
        | ok keys => exact Run.failsBy_bind (Run.failsBy_record _) fun _ => Run.failsBy_pure _
  · exact Run.failsBy_pure _

theorem openHostLists_fails :
    Run.FailsBy (FailureOf around destination .hostLists) (openHostLists around destination) := by
  unfold openHostLists
  split
  · rename_i refusal refused
    exact Run.failsBy_fail (.listUnopened (HostKeyVerifier.create_eq_error refused))
  · exact Run.failsBy_bind (Run.failsBy_record _) fun _ => Run.failsBy_pure _

theorem resolveProxy_fails :
    Run.FailsBy (FailureOf around destination .proxyCommand)
      (resolveProxy destination : Run σ (Option Text)) := by
  unfold resolveProxy
  split
  · exact Run.failsBy_pure _
  · rename_i proxy proxied
    split
    · rename_i cause unresolved
      exact Run.failsBy_fail (.proxyUnresolved proxied unresolved)
    · exact Run.failsBy_bind (Run.failsBy_record _) fun _ => Run.failsBy_pure _

/-- A stream that is refused is refused by the dialer of the caller or by the network. -/
theorem failureOf_refused {state : σ} {cause : SystemError} (direct : destination.proxy = none)
    (refused : (around.openStream destination.customDialer destination.hostname destination.port
      state).1 = .refused cause) :
    FailureOf around destination .opening (streamFailure destination cause) := by
  unfold streamFailure
  cases given : destination.customDialer with
  | none =>
      rw [given] at refused
      exact .networkRefused direct given refused
  | some dialer =>
      rw [given] at refused
      exact .dialerRefused direct given refused

theorem openConnection_fails {proxyLine : Option Text} {events : List Event}
    (found : ProxyFound destination proxyLine events) :
    Run.FailsBy (FailureOf around destination .opening)
      (openConnection around destination proxyLine) := by
  cases proxied : destination.proxy with
  | none =>
      obtain rfl := found.direct proxied
      have expired : limitFailure destination = .connectTimeout destination.connectLimit := by
        rw [limitFailure, proxied]
      have failing : FailureOf around destination .opening
          (.connectTimeout destination.connectLimit) := expired ▸ .streamExpired proxied
      refine Run.failsBy_bind (Run.failsBy_record _) fun _ => Run.failsBy_ask_bind fun state => ?_
      cases answered : (around.openStream destination.customDialer destination.hostname
          destination.port state).1 with
      | refused cause => exact Run.failsBy_fail (failureOf_refused proxied answered)
      | silent => exact Run.failsBy_fail failing
      | opened =>
          dsimp only
          split
          · exact Run.failsBy_fail failing
          · exact Run.failsBy_pure _
  | some proxy =>
      obtain ⟨line, rfl, resolved, _⟩ := found.proxied proxy proxied
      refine Run.failsBy_bind (Run.failsBy_record _) fun _ => Run.failsBy_ask_bind fun state => ?_
      cases answered : (around.startProxy line destination.proxyDirectory destination.proxyLimit
          state).1 with
      | error cause => exact Run.failsBy_fail (.proxyUnstarted proxied resolved answered)
      | ok process => exact Run.failsBy_bind (Run.failsBy_record _) fun _ => Run.failsBy_pure _

theorem ProxyFound.expire_result {proxyLine : Option Text} {events : List Event}
    (found : ProxyFound destination proxyLine events) (state : σ) :
    (expire around destination proxyLine state).result = .error (limitFailure destination) := by
  cases proxied : destination.proxy with
  | none =>
      obtain rfl := found.direct proxied
      rw [limitFailure, proxied]
      rfl
  | some proxy =>
      obtain ⟨line, rfl, _⟩ := found.proxied proxy proxied
      rw [limitFailure, proxied]
      rfl

theorem ProxyFound.expire_fails {proxyLine : Option Text} {events : List Event}
    (found : ProxyFound destination proxyLine events) :
    Run.FailsBy (· = limitFailure destination) (expire around destination proxyLine) := by
  intro state failure failed
  rw [found.expire_result state] at failed
  exact (Except.error.inj failed).symm

theorem shakeHands_fails {expiring : Run σ Unit}
    (expired : Run.FailsBy (· = limitFailure destination) expiring) (verifier : HostKeyVerifier) :
    Run.FailsBy (FailureOf around destination .handshake)
      (shakeHands around destination verifier expiring) := by
  have limited : Run.FailsBy (FailureOf around destination .handshake) expiring := by
    intro state failure failed
    exact expired state failure failed ▸ .handshakeExpired
  refine Run.failsBy_ask_bind fun state => ?_
  cases greeted : (around.greet state).1 with
  | silent => exact limited
  | breaks fault => exact Run.failsBy_fail (.greetingBroken greeted)
  | presents key =>
      refine Run.failsBy_bind (Run.failsBy_record _) fun _ => ?_
      split
      · refine Run.failsBy_ask_bind fun state => ?_
        cases agreed : (around.agree state).1 with
        | reached => exact Run.failsBy_pure _
        | breaks fault => exact Run.failsBy_fail (.agreementBroken agreed)
        | silent => exact limited
      · exact Run.failsBy_fail .hostKeyRejected

/-- An exchange that fails for good is that of a decoded key, of the password or of a method of the
caller. -/
theorem failureOf_outcome {identities : List PublicKey} {signers : List SigningKey}
    {hash : Option SignatureHash} {exchange : Exchange} {state : σ} {cause : ConnectionFailure}
    (decoded : ∀ signer ∈ signers, ∃ key ∈ destination.keys, Decodes around key signer)
    (planned : exchange.attempt ∈ plannedAttempts identities signers hash destination.password
      destination.callerMethods)
    (answered : exchange.outcome = exchange.attempt.outcome
      (around.attempt destination.user exchange.attempt state).1)
    (settles : exchange.settles = true) (failed : exchange.outcome = .failed cause) :
    FailureOf around destination .authentication cause := by
  rcases exchange with ⟨attempt, outcome⟩
  simp only at planned answered failed
  obtain ⟨fault, broken, rfl⟩ := Attempt.outcome_eq_failed (answered.symm.trans failed)
  cases attempt with
  | agentKey key =>
      rw [failed] at settles
      cases settles
  | signingKey signer hash =>
      obtain ⟨key, wanted, decodes⟩ := decoded signer (signer_of_mem_plannedAttempts planned)
      exact .keyBroken wanted decodes broken
  | password text => exact .passwordBroken (password_of_mem_plannedAttempts planned) broken
  | callerMethod method => exact .methodFailed (method_of_mem_plannedAttempts planned) broken

/-- Making the attempts of a destination fails because none of them is accepted, because one fails for
good, or by the limit. -/
theorem attemptAll_fails {identities : List PublicKey} {signers : List SigningKey}
    {expiring : Run σ Unit} (expired : Run.FailsBy (· = limitFailure destination) expiring)
    (decoded : ∀ signer ∈ signers, ∃ key ∈ destination.keys, Decodes around key signer)
    (hash : Option SignatureHash) :
    Run.FailsBy (FailureOf around destination .authentication)
      (attemptAll around destination.user expiring
        (plannedAttempts identities signers hash destination.password
          destination.callerMethods)) := by
  intro state failure failed
  rcases attemptAll_cases around destination.user expiring _ state with
    ⟨_, last, vain⟩ | ⟨front, decisive, pending, between, split, _, settles, run⟩
  · rw [vain] at failed
    cases failed
    exact .noneAccepted
  · rw [run, Report.after_result] at failed
    have member : decisive ∈ exchanges around destination.user
        (plannedAttempts identities signers hash destination.password destination.callerMethods)
        state := by
      simp [split]
    obtain ⟨planned, later, answered⟩ := outcome_of_mem_exchanges member
    cases outcome : decisive.outcome with
    | accepted =>
        rw [outcome] at failed
        cases failed
    | rejected =>
        rw [outcome] at failed
        cases failed
        exact .noneAccepted
    | failed cause =>
        rw [outcome] at failed
        cases failed
        exact failureOf_outcome decoded planned answered settles outcome
    | silent =>
        rw [outcome] at failed
        exact expired between failure failed ▸ .attemptExpired

theorem authenticate_fails {prepared : Prepared} {events : List Event} {expiring : Run σ Unit}
    (found : Prepares around destination prepared events)
    (expired : Run.FailsBy (· = limitFailure destination) expiring) :
    Run.FailsBy (FailureOf around destination .authentication)
      (authenticate around destination.user expiring prepared.methods) := by
  have decoded : ∀ signer ∈ decodedKeys events, ∃ key ∈ destination.keys,
      Decodes around key signer := fun _ => exists_decodes found.keys.decode
  rw [found.methods]
  by_cases asked : AsksHash (listedIdentities events) (decodedKeys events)
  · rw [authenticate_of_asked asked]
    refine Run.failsBy_ask_bind fun state => ?_
    cases reply : (around.signatureHash state).1 with
    | told hash => exact attemptAll_fails expired decoded hash
    | broken fault =>
        obtain ⟨signer, member⟩ := List.exists_mem_of_ne_nil _ asked.2
        obtain ⟨key, wanted, _⟩ := decoded signer member
        exact Run.failsBy_fail (.hashBroken (List.ne_nil_of_mem wanted) reply)
    | silent => exact fun state failure failed => expired state failure failed ▸ .attemptExpired
  · intro state failure failed
    rw [authenticate_of_settled (.unasked asked)] at failed
    exact attemptAll_fails expired decoded none state failure failed

/-! ### How a dial fails -/

/-- At a point that a dial gets to, the next step fails in a way of its own if it fails. -/
theorem Reaches.failure {point : Point} {events : List Event} {state : σ}
    (reached : Reaches around destination start point events state) :
    Run.FailsBy (FailureOf around destination point.step) (point.perform around destination) := by
  have found := reached.found
  cases point with
  | keys =>
      refine Run.failsBy_bind ?_ fun _ => Run.failsBy_pure _
      intro state failure failed
      obtain ⟨key, wanted, refusal, rfl, refused⟩ := loadKeys_fails _ _ state failure failed
      rw [key.label_eq]
      exact .keyRefused wanted refused
  | agent signers => exact Run.failsBy_bind agentKeys_fails fun _ => Run.failsBy_pure _
  | hostLists signers identities =>
      exact Run.failsBy_bind openHostLists_fails fun _ => Run.failsBy_pure _
  | proxyCommand signers identities verifier =>
      exact Run.failsBy_bind resolveProxy_fails fun _ => Run.failsBy_pure _
  | opening prepared =>
      exact Run.failsBy_bind (openConnection_fails (Prepares.proxy found)) fun _ =>
        Run.failsBy_pure _
  | handshake prepared process =>
      refine Run.failsBy_bind ?_ fun _ => Run.failsBy_pure _
      exact shakeHands_fails (Prepares.proxy found).expire_fails prepared.verifier
  | authentication prepared process =>
      refine Run.failsBy_bind ?_ fun _ => Run.failsBy_pure _
      exact authenticate_fails found.1 found.1.proxy.expire_fails
  | connected session => exact Run.failsBy_pure _

end Dial

end SecureShell
