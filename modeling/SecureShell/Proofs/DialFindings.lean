/-
Module: SecureShell.Proofs.DialFindings
Purpose: What a dial has found when it gets to a point, told from the events on the way: the keys that were
  decoded, what the agent has listed, that the lists of known hosts were opened, the command of the proxy,
  and that the host key was trusted.
Main exports: Dial.Decodes, Dial.Prepares, Dial.Trusted, Dial.Found, Dial.Reaches.found
-/
import Mathlib.Data.List.Forall2
import SecureShell.Proofs.DialEvents

namespace SecureShell.Dial

variable {σ : Type}

/-- A key is text that decodes with some passphrase. -/
def Decodes (around : Surroundings σ) (key : KeyMaterial) (signer : SigningKey) : Prop :=
  ∃ text passphrase, Utf8.decode key.content = .ok text ∧
    around.decodeKey text passphrase = .ok signer

/-- The keys of a destination decode, and the events show what they decode to. -/
structure KeysFound (around : Surroundings σ) (destination : Destination)
    (signers : List SigningKey) (events : List Event) : Prop where
  seen : decodedKeys events = signers
  decode : List.Forall₂ (Decodes around) destination.keys signers

/-- The agent has been asked for its keys if it is wanted, and the events show what it has listed. -/
structure AgentFound (destination : Destination) (identities : List PublicKey)
    (events : List Event) : Prop where
  seen : listedIdentities events = identities
  asked : ∀ socket, destination.agentSocket = some socket → destination.useAgent = true →
    .agentListed identities ∈ events
  wanted : identities ≠ [] → destination.useAgent = true ∧
    ∃ socket, destination.agentSocket = some socket

/-- Every decoded key comes from one of the keys. -/
theorem exists_decodes {around : Surroundings σ} {keys : List KeyMaterial}
    {signers : List SigningKey} (decode : List.Forall₂ (Decodes around) keys signers)
    {signer : SigningKey} (member : signer ∈ signers) :
    ∃ key ∈ keys, Decodes around key signer := by
  induction decode with
  | nil => cases member
  | cons decodes _ ih =>
      rcases List.mem_cons.mp member with rfl | later
      · exact ⟨_, List.mem_cons_self, decodes⟩
      · obtain ⟨key, wanted, decodes⟩ := ih later
        exact ⟨key, List.mem_cons_of_mem _ wanted, decodes⟩

/-- All lists of known hosts have been opened for the verifier of the destination. -/
structure ListsFound (around : Surroundings σ) (destination : Destination)
    (verifier : HostKeyVerifier) (events : List Event) : Prop where
  seen : .hostListsOpened destination.knownHosts ∈ events
  created : HostKeyVerifier.create around.files destination.hostname destination.port
    destination.knownHosts = .ok verifier

/-- The command of the proxy is known, if there is a proxy. -/
structure ProxyFound (destination : Destination) (proxyLine : Option Text)
    (events : List Event) : Prop where
  direct : destination.proxy = none → proxyLine = none
  proxied : ∀ proxy, destination.proxy = some proxy → ∃ line, proxyLine = some line ∧
    proxy.commandFor destination.user destination.port destination.hostname = .ok line ∧
      .proxyResolved line ∈ events

/-- Everything that comes before the first contact with the peer has been done. -/
structure Prepares (around : Surroundings σ) (destination : Destination) (prepared : Prepared)
    (events : List Event) : Prop where
  keys : KeysFound around destination (decodedKeys events) events
  agent : AgentFound destination (listedIdentities events) events
  hostLists : ListsFound around destination prepared.verifier events
  proxy : ProxyFound destination prepared.proxyLine events
  methods : prepared.methods = selectMethods (listedIdentities events) (decodedKeys events)
    destination.password destination.callerMethods

/-- The events show that the host key was trusted. -/
def Trusted (around : Surroundings σ) (verifier : HostKeyVerifier) (events : List Event) : Prop :=
  ∃ key, .hostKeyChecked key true ∈ events ∧ verifier.trusts around.files key = true

/-- What the events on the way to a point show. -/
def Found (around : Surroundings σ) (destination : Destination) (events : List Event) :
    Point → Prop
  | .keys => events = []
  | .agent signers => KeysFound around destination signers events ∧ listedIdentities events = []
  | .hostLists signers identities =>
      KeysFound around destination signers events ∧ AgentFound destination identities events
  | .proxyCommand signers identities verifier =>
      KeysFound around destination signers events ∧ AgentFound destination identities events ∧
        ListsFound around destination verifier events
  | .opening prepared => Prepares around destination prepared events
  | .handshake prepared _ => Prepares around destination prepared events
  | .authentication prepared _ =>
      Prepares around destination prepared events ∧ Trusted around prepared.verifier events
  | .connected _ => True

variable {around : Surroundings σ} {destination : Destination} {start : σ}

/-! ### What each step finds -/

theorem askPassphrase_ok {key : KeyMaterial} {state later : σ} {answer : Text}
    {events : List Event}
    (asked : key.askPassphrase around state = ⟨.ok answer, events, later⟩) :
    events = [.passphraseAsked key.label] := by
  simp only [KeyMaterial.askPassphrase, Run.record_bind, Run.ask_bind] at asked
  cases given : (around.askPassphrase key.question state).1 with
  | error cause =>
      rw [given] at asked
      cases asked
  | ok text =>
      rw [given] at asked
      cases asked
      rfl

theorem retry_ok {key : KeyMaterial} {text : Text} {state later : σ} {signer : SigningKey}
    {events : List Event} (readable : Utf8.decode key.content = .ok text)
    (retried : key.retry around text state = ⟨.ok signer, events, later⟩) :
    decodedKeys events = [signer] ∧ Decodes around key signer := by
  obtain ⟨answer, before, between, rest, asked, decoded, rfl⟩ := Run.ok_of_bind retried
  obtain rfl := askPassphrase_ok asked
  cases decodes : around.decodeKey text (some answer) with
  | ok accepted =>
      rw [decodes] at decoded
      cases decoded
      exact ⟨rfl, text, some answer, readable, decodes⟩
  | error fault =>
      rw [decodes] at decoded
      cases decoded

theorem load_ok {prompting : Bool} {key : KeyMaterial} {state later : σ} {signer : SigningKey}
    {events : List Event} (loaded : key.load around prompting state = ⟨.ok signer, events, later⟩) :
    decodedKeys events = [signer] ∧ Decodes around key signer := by
  cases readable : Utf8.decode key.content with
  | error fault =>
      simp only [KeyMaterial.load, readable] at loaded
      cases loaded
  | ok text =>
      cases decodes : around.decodeKey text key.passphrase with
      | ok decoded =>
          simp only [KeyMaterial.load, readable, decodes] at loaded
          cases loaded
          exact ⟨rfl, text, key.passphrase, readable, decodes⟩
      | error fault =>
          cases prompting with
          | false =>
              simp only [KeyMaterial.load, readable, decodes] at loaded
              cases loaded
          | true =>
              simp only [KeyMaterial.load, readable, decodes, if_true] at loaded
              exact retry_ok readable loaded

theorem loadKeys_ok {prompting : Bool} {keys : List KeyMaterial} {state later : σ}
    {signers : List SigningKey} {events : List Event}
    (loaded : loadKeys around prompting keys state = ⟨.ok signers, events, later⟩) :
    decodedKeys events = signers ∧ List.Forall₂ (Decodes around) keys signers := by
  induction keys generalizing state later signers events with
  | nil =>
      cases loaded
      exact ⟨rfl, .nil⟩
  | cons key rest ih =>
      obtain ⟨signer, before, between, after, first, others, rfl⟩ := Run.ok_of_bind loaded
      obtain ⟨remaining, later, rfl⟩ := Run.ok_of_bind_pure others
      obtain ⟨seen, decodes⟩ := load_ok first
      obtain ⟨seenLater, decodeLater⟩ := ih later
      refine ⟨?_, .cons decodes decodeLater⟩
      rw [decodedKeys, List.filterMap_append, ← decodedKeys, ← decodedKeys, seen, seenLater]
      rfl

theorem listedKeys_ok {socket : Path} {state later : σ} {identities : List PublicKey}
    {events : List Event} (known : destination.agentSocket = some socket)
    (wanted : destination.useAgent = true)
    (asked : listedKeys around socket state = ⟨.ok identities, events, later⟩) :
    AgentFound destination identities events := by
  simp only [listedKeys, Run.ask_bind] at asked
  cases reached : (around.reachAgent socket state).1 with
  | error cause =>
      rw [reached] at asked
      cases asked
  | ok _ =>
      simp only [reached, Run.ask_bind] at asked
      cases listed : (around.listAgentKeys (around.reachAgent socket state).2).1 with
      | error cause =>
          rw [listed] at asked
          cases asked
      | ok keys =>
          rw [listed] at asked
          cases asked
          exact ⟨by simp [listedIdentities, Event.listing?], fun _ _ _ => List.mem_singleton_self _,
            fun _ => ⟨wanted, socket, known⟩⟩

theorem agentKeys_ok {state later : σ} {identities : List PublicKey} {events : List Event}
    (asked : agentKeys around destination state = ⟨.ok identities, events, later⟩) :
    AgentFound destination identities events := by
  cases known : destination.agentSocket with
  | none =>
      simp only [agentKeys, known] at asked
      cases asked
      refine ⟨rfl, fun socket other => ?_, by simp⟩
      rw [known] at other
      cases other
  | some socket =>
      cases wanted : destination.useAgent with
      | false =>
          simp only [agentKeys, known, wanted] at asked
          cases asked
          refine ⟨rfl, fun _ _ other => ?_, by simp⟩
          rw [wanted] at other
          cases other
      | true =>
          simp only [agentKeys, known, wanted] at asked
          exact listedKeys_ok known wanted asked

theorem openHostLists_ok {state later : σ} {verifier : HostKeyVerifier} {events : List Event}
    (opened : openHostLists around destination state = ⟨.ok verifier, events, later⟩) :
    ListsFound around destination verifier events := by
  cases created : HostKeyVerifier.create around.files destination.hostname destination.port
      destination.knownHosts with
  | error refusal =>
      simp only [openHostLists, created] at opened
      cases opened
  | ok verifier =>
      simp only [openHostLists, created] at opened
      cases opened
      exact ⟨List.mem_singleton_self _, created⟩

theorem resolveProxy_ok {state later : σ} {proxyLine : Option Text} {events : List Event}
    (resolved : resolveProxy destination state = ⟨.ok proxyLine, events, later⟩) :
    ProxyFound destination proxyLine events := by
  cases proxied : destination.proxy with
  | none =>
      simp only [resolveProxy, proxied] at resolved
      cases resolved
      exact ⟨fun _ => rfl, fun proxy other => by rw [proxied] at other; cases other⟩
  | some proxy =>
      cases command : proxy.commandFor destination.user destination.port destination.hostname with
      | error cause =>
          simp only [resolveProxy, proxied, command] at resolved
          cases resolved
      | ok line =>
          simp only [resolveProxy, proxied, command] at resolved
          cases resolved
          refine ⟨fun direct => ?_, fun other same => ?_⟩
          · rw [proxied] at direct
            cases direct
          · rw [proxied] at same
            cases same
            exact ⟨line, rfl, command, List.mem_singleton_self _⟩

/-- The end of a time limit is a failure. -/
theorem expire_result_ne (proxyLine : Option Text) (state : σ) :
    (expire around destination proxyLine state).result ≠ .ok () := by
  cases proxyLine <;> exact nofun

/-- What a handshake comes to: no host key was presented, or it was rejected, or it was trusted. -/
theorem shakeHands_cases (around : Surroundings σ) (destination : Destination)
    (verifier : HostKeyVerifier) (proxyLine : Option Text) (state : σ) :
    let report := shakeHands around destination verifier
      (expire around destination proxyLine) state
    (report.result ≠ .ok () ∧ ∀ event ∈ report.events, event.step? = none) ∨
      (∃ key, verifier.trusts around.files key = false ∧
        report.result = .error (.hostKeyRejected destination.hostname destination.port) ∧
          report.events = [.hostKeyChecked key false]) ∨
        ∃ key more, verifier.trusts around.files key = true ∧
          report.events = .hostKeyChecked key true :: more ∧
            ∀ event ∈ more, event.step? = none := by
  simp only [shakeHands, Run.ask_bind]
  cases greeted : (around.greet state).1 with
  | silent =>
      exact .inl ⟨expire_result_ne proxyLine _, expire_emits proxyLine _⟩
  | breaks fault =>
      refine .inl ⟨?_, by simp⟩
      intro ended
      cases ended
  | presents key =>
      simp only [Run.record_bind]
      cases trusted : verifier.trusts around.files key with
      | false => exact .inr (.inl ⟨key, trusted, rfl, rfl⟩)
      | true =>
          simp only [if_true, Run.ask_bind]
          refine .inr (.inr ⟨key, ?_⟩)
          cases (around.agree (around.greet state).2).1 with
          | reached => exact ⟨[], trusted, rfl, by simp⟩
          | breaks fault => exact ⟨[], trusted, rfl, by simp⟩
          | silent => exact ⟨_, trusted, rfl, expire_emits proxyLine _⟩

theorem shakeHands_ok {verifier : HostKeyVerifier} {proxyLine : Option Text} {state later : σ}
    {events : List Event}
    (shaken : shakeHands around destination verifier (expire around destination proxyLine) state =
      ⟨.ok (), events, later⟩) : Trusted around verifier events := by
  have cases := shakeHands_cases around destination verifier proxyLine state
  rw [shaken] at cases
  rcases cases with ⟨failed, _⟩ | ⟨_, _, failed, _⟩ | ⟨key, more, trusted, seen, _⟩
  · exact absurd rfl failed
  · cases failed
  · exact ⟨key, by simp only at seen; simp [seen], trusted⟩

/-! ### What is found stays found -/

section append

variable {step : Step} {events more : List Event}

theorem KeysFound.append {signers : List SigningKey}
    (found : KeysFound around destination signers events)
    (within : ∀ event ∈ more, event.Within step) (apart : step ≠ .keys) :
    KeysFound around destination signers (events ++ more) :=
  ⟨(decodedKeys_append_of_within events within apart).trans found.seen, found.decode⟩

theorem AgentFound.mono {identities : List PublicKey}
    (found : AgentFound destination identities events) (kept : events ⊆ more)
    (seen : listedIdentities more = identities) : AgentFound destination identities more where
  seen := seen
  asked := fun socket known wanted => kept (found.asked socket known wanted)
  wanted := found.wanted

theorem AgentFound.append {identities : List PublicKey}
    (found : AgentFound destination identities events)
    (within : ∀ event ∈ more, event.Within step) (apart : step ≠ .agent) :
    AgentFound destination identities (events ++ more) :=
  found.mono (List.subset_append_left _ _)
    ((listedIdentities_append_of_within events within apart).trans found.seen)

theorem AgentFound.behind {identities : List PublicKey}
    (found : AgentFound destination identities more) (unlisted : listedIdentities events = []) :
    AgentFound destination identities (events ++ more) := by
  refine found.mono (List.subset_append_right _ _) ?_
  rw [listedIdentities, List.filterMap_append, List.flatten_append]
  rw [← listedIdentities, ← listedIdentities, unlisted, found.seen]
  rfl

theorem ListsFound.mono {verifier : HostKeyVerifier}
    (found : ListsFound around destination verifier events) (kept : events ⊆ more) :
    ListsFound around destination verifier more :=
  ⟨kept found.seen, found.created⟩

theorem ProxyFound.mono {proxyLine : Option Text}
    (found : ProxyFound destination proxyLine events) (kept : events ⊆ more) :
    ProxyFound destination proxyLine more where
  direct := found.direct
  proxied := by
    intro proxy proxied
    obtain ⟨line, same, command, seen⟩ := found.proxied proxy proxied
    exact ⟨line, same, command, kept seen⟩

theorem Prepares.append {prepared : Prepared}
    (found : Prepares around destination prepared events)
    (within : ∀ event ∈ more, event.Within step) (apart : step ≠ .keys)
    (apart' : step ≠ .agent) : Prepares around destination prepared (events ++ more) := by
  obtain ⟨keys, agent, hostLists, proxy, methods⟩ := found
  have decoded := decodedKeys_append_of_within events within apart
  have listed := listedIdentities_append_of_within events within apart'
  have kept : events ⊆ events ++ more := List.subset_append_left _ _
  refine ⟨?_, ?_, hostLists.mono kept, proxy.mono kept, ?_⟩
  · rw [decoded]
    exact keys.append within apart
  · rw [listed]
    exact agent.append within apart'
  · rw [decoded, listed]
    exact methods

end append

/-- A step adds what it finds to what has been found before it. -/
theorem Found.step {point later : Point} {events more : List Event} {state after : σ}
    (found : Found around destination events point)
    (step : point.perform around destination state = ⟨.ok later, more, after⟩) :
    Found around destination (events ++ more) later := by
  have within : ∀ event ∈ more, event.Within point.step := by
    intro event member
    apply point.perform_emits around destination state event
    rw [step]
    exact member
  cases point with
  | keys =>
      obtain ⟨signers, loaded, rfl⟩ := Run.ok_of_bind_pure step
      obtain ⟨seen, decode⟩ := loadKeys_ok loaded
      obtain rfl : events = [] := found
      have unlisted : listedIdentities more = [] :=
        listedIdentities_append_of_within [] within (by simp [Point.step])
      exact ⟨⟨seen, decode⟩, unlisted⟩
  | agent signers =>
      obtain ⟨identities, asked, rfl⟩ := Run.ok_of_bind_pure step
      obtain ⟨keys, unlisted⟩ := found
      have agent := agentKeys_ok asked
      exact ⟨keys.append within (by simp [Point.step]), agent.behind unlisted⟩
  | hostLists signers identities =>
      obtain ⟨verifier, opened, rfl⟩ := Run.ok_of_bind_pure step
      obtain ⟨keys, agent⟩ := found
      exact ⟨keys.append within (by simp [Point.step]), agent.append within (by simp [Point.step]),
        (openHostLists_ok opened).mono (List.subset_append_right _ _)⟩
  | proxyCommand signers identities verifier =>
      obtain ⟨proxyLine, resolved, rfl⟩ := Run.ok_of_bind_pure step
      obtain ⟨keys, agent, lists⟩ := found
      have keys' := keys.append within (by simp [Point.step])
      have agent' := agent.append within (by simp [Point.step])
      have decoded := keys'.seen
      have listed := agent'.seen
      refine ⟨?_, ?_, lists.mono (List.subset_append_left _ _),
        (resolveProxy_ok resolved).mono (List.subset_append_right _ _), ?_⟩
      · rw [decoded]
        exact keys'
      · rw [listed]
        exact agent'
      · rw [decoded, listed]
  | opening prepared =>
      obtain ⟨process, _, rfl⟩ := Run.ok_of_bind_pure step
      exact Prepares.append found within (by simp [Point.step]) (by simp [Point.step])
  | handshake prepared process =>
      obtain ⟨_, shaken, rfl⟩ := Run.ok_of_bind_pure step
      obtain ⟨key, seen, trusted⟩ := shakeHands_ok shaken
      exact ⟨Prepares.append found within (by simp [Point.step]) (by simp [Point.step]), key,
        List.mem_append_right _ seen, trusted⟩
  | authentication prepared process =>
      obtain ⟨_, _, rfl⟩ := Run.ok_of_bind_pure step
      trivial
  | connected session =>
      cases step
      trivial

/-- At every point that a dial gets to, the events show what the point holds. -/
theorem Reaches.found {point : Point} {events : List Event} {state : σ}
    (reached : Reaches around destination start point events state) :
    Found around destination events point := by
  induction reached with
  | start => exact rfl
  | next before step ih => exact ih.step step

end SecureShell.Dial
