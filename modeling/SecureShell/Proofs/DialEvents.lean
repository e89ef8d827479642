/-
Module: SecureShell.Proofs.DialEvents
Purpose: What is seen of each step of a dial. Every event belongs to one step, apart from the end of a
  proxy, and a step causes no event of another one.
Main exports: Event.step?, Event.BelongsTo, Event.Within, decodedKeys, listedIdentities, attemptsOf,
  Dial.Point.perform_emits
-/
import SecureShell.Proofs.DialSteps

namespace SecureShell

namespace Event

/-- The step that an event belongs to. The end of a proxy belongs to none. -/
def step? : Event → Option Dial.Step
  | .passphraseAsked _ => some .keys
  | .keyDecoded _ => some .keys
  | .agentListed _ => some .agent
  | .hostListsOpened _ => some .hostLists
  | .proxyResolved _ => some .proxyCommand
  | .streamRequested _ _ => some .opening
  | .proxyRequested _ _ => some .opening
  | .proxyStarted _ => some .opening
  | .hostKeyChecked _ _ => some .handshake
  | .attempted _ => some .authentication
  | .proxyKilled => none
  | .proxyReaped => none

/-- An event of a step. -/
def BelongsTo (step : Dial.Step) (event : Event) : Prop :=
  event.step? = some step

/-- An event that belongs to a step if it belongs to any. -/
def Within (step : Dial.Step) (event : Event) : Prop :=
  ∀ own, event.step? = some own → own = step

theorem BelongsTo.within {step : Dial.Step} {event : Event} (owned : event.BelongsTo step) :
    event.Within step := by
  intro own other
  rw [owned] at other
  exact (Option.some.inj other).symm

theorem within_none {step : Dial.Step} {event : Event} (free : event.step? = none) :
    event.Within step := by
  intro own owned
  rw [free] at owned
  cases owned

/-- The key that an event shows to be decoded. -/
def decodedKey? : Event → Option SigningKey
  | .keyDecoded key => some key
  | _ => none

/-- The keys that an event shows an agent to have. -/
def listing? : Event → Option (List PublicKey)
  | .agentListed identities => some identities
  | _ => none

/-- The attempt that an event shows. -/
def attempt? : Event → Option Attempt
  | .attempted attempt => some attempt
  | _ => none

end Event

/-- The keys that have been decoded, in order. -/
def decodedKeys (events : List Event) : List SigningKey :=
  events.filterMap Event.decodedKey?

/-- The keys that the agent has listed. -/
def listedIdentities (events : List Event) : List PublicKey :=
  (events.filterMap Event.listing?).flatten

/-- The attempts that have been made, in order. -/
def attemptsOf (events : List Event) : List Attempt :=
  events.filterMap Event.attempt?

theorem filterMap_eq_nil_of_within {α : Type} {view : Event → Option α} {step other : Dial.Step}
    {events : List Event} (within : ∀ event ∈ events, event.Within step)
    (seen : ∀ event, view event ≠ none → event.step? = some other) (apart : other ≠ step) :
    events.filterMap view = [] := by
  refine List.filterMap_eq_nil_iff.mpr fun event member => ?_
  refine Classical.byContradiction fun visible => ?_
  exact apart (within event member other (seen event visible))

theorem decodedKeys_append_of_within {step : Dial.Step} (events : List Event) {more : List Event}
    (within : ∀ event ∈ more, event.Within step) (apart : step ≠ .keys) :
    decodedKeys (events ++ more) = decodedKeys events := by
  have unseen : more.filterMap Event.decodedKey? = [] :=
    filterMap_eq_nil_of_within within
      (by intro event; cases event <;> simp [Event.decodedKey?, Event.step?]) apart.symm
  rw [decodedKeys, List.filterMap_append, unseen, List.append_nil, decodedKeys]

theorem listedIdentities_append_of_within {step : Dial.Step} (events : List Event)
    {more : List Event}
    (within : ∀ event ∈ more, event.Within step) (apart : step ≠ .agent) :
    listedIdentities (events ++ more) = listedIdentities events := by
  have unseen : more.filterMap Event.listing? = [] :=
    filterMap_eq_nil_of_within within
      (by intro event; cases event <;> simp [Event.listing?, Event.step?]) apart.symm
  rw [listedIdentities, List.filterMap_append, unseen, List.append_nil, listedIdentities]

namespace Dial

variable {σ : Type} {around : Surroundings σ} {destination : Destination} {start : σ}

/-! ### The events of each step -/

theorem acceptKey_emits (decoded : SigningKey) :
    Run.Emits (Event.BelongsTo .keys) (acceptKey decoded : Run σ SigningKey) :=
  Run.emits_bind (Run.emits_record rfl)
    fun _ => Run.emits_pure _

theorem askPassphrase_emits (key : KeyMaterial) :
    Run.Emits (Event.BelongsTo .keys) (key.askPassphrase around) := by
  refine Run.emits_bind (Run.emits_record rfl) fun _ => ?_
  refine Run.emits_bind (Run.emits_ask _) fun answer => ?_
  cases answer with
  | error cause => exact Run.emits_fail _
  | ok answer => exact Run.emits_pure _

theorem load_emits (prompting : Bool) (key : KeyMaterial) :
    Run.Emits (Event.BelongsTo .keys) (key.load around prompting) := by
  unfold KeyMaterial.load
  split
  · exact Run.emits_fail _
  · split
    · exact acceptKey_emits _
    · split
      · refine Run.emits_bind (askPassphrase_emits key) fun answer => ?_
        split
        · exact acceptKey_emits _
        · exact Run.emits_fail _
      · exact Run.emits_fail _

theorem loadKeys_emits (prompting : Bool) (keys : List KeyMaterial) :
    Run.Emits (Event.BelongsTo .keys) (loadKeys around prompting keys) := by
  induction keys with
  | nil => exact Run.emits_pure _
  | cons key rest ih =>
      refine Run.emits_bind (load_emits prompting key) fun decoded => ?_
      exact Run.emits_bind ih fun others => Run.emits_pure _

theorem agentKeys_emits :
    Run.Emits (Event.BelongsTo .agent) (agentKeys around destination) := by
  unfold agentKeys
  split
  · refine Run.emits_bind (Run.emits_ask _) fun reached => ?_
    cases reached with
    | error cause => exact Run.emits_fail _
    | ok _ =>
        refine Run.emits_bind (Run.emits_ask _) fun listing => ?_
        cases listing with
        | error cause => exact Run.emits_fail _
        | ok keys =>
            exact Run.emits_bind (Run.emits_record rfl)
              fun _ => Run.emits_pure _
  · exact Run.emits_pure _

theorem openHostLists_emits :
    Run.Emits (Event.BelongsTo .hostLists) (openHostLists around destination) := by
  unfold openHostLists
  split
  · exact Run.emits_fail _
  · exact Run.emits_bind (Run.emits_record rfl)
      fun _ => Run.emits_pure _

theorem resolveProxy_emits :
    Run.Emits (Event.BelongsTo .proxyCommand) (resolveProxy destination : Run σ (Option Text)) := by
  unfold resolveProxy
  split
  · exact Run.emits_pure _
  · split
    · exact Run.emits_fail _
    · exact Run.emits_bind (Run.emits_record rfl)
        fun _ => Run.emits_pure _

theorem openConnection_emits (proxyLine : Option Text) :
    Run.Emits (Event.BelongsTo .opening) (openConnection around destination proxyLine) := by
  cases proxyLine with
  | none =>
      refine Run.emits_bind (Run.emits_record rfl) fun _ => ?_
      refine Run.emits_bind (Run.emits_ask _) fun answer => ?_
      cases answer with
      | refused cause => exact Run.emits_fail _
      | silent => exact Run.emits_fail _
      | opened =>
          dsimp only
          split
          · exact Run.emits_fail _
          · exact Run.emits_pure _
  | some line =>
      refine Run.emits_bind (Run.emits_record rfl) fun _ => ?_
      refine Run.emits_bind (Run.emits_ask _) fun answer => ?_
      cases answer with
      | error cause => exact Run.emits_fail _
      | ok process =>
          exact Run.emits_bind (Run.emits_record rfl)
            fun _ => Run.emits_pure _

/-- The end of a proxy is no event of any step. -/
theorem expire_emits (proxyLine : Option Text) :
    Run.Emits (fun event => event.step? = none) (expire around destination proxyLine) := by
  cases proxyLine with
  | none => exact Run.emits_fail _
  | some line =>
      refine Run.emits_bind (Run.emits_change _) fun _ => ?_
      refine Run.emits_bind (Run.emits_record rfl) fun _ => ?_
      exact Run.emits_bind (Run.emits_record rfl) fun _ => Run.emits_fail _

theorem shakeHands_emits (verifier : HostKeyVerifier) (proxyLine : Option Text) :
    Run.Emits (Event.Within .handshake)
      (shakeHands around destination verifier (expire around destination proxyLine)) := by
  have expiring : Run.Emits (Event.Within .handshake) (expire around destination proxyLine) :=
    fun state event member => Event.within_none (expire_emits proxyLine state event member)
  refine Run.emits_bind (Run.emits_ask _) fun greeting => ?_
  cases greeting with
  | silent => exact expiring
  | breaks fault => exact Run.emits_fail _
  | presents key =>
      refine Run.emits_bind (Run.emits_record (Event.BelongsTo.within rfl)) fun _ => ?_
      split
      · refine Run.emits_bind (Run.emits_ask _) fun agreement => ?_
        cases agreement with
        | reached => exact Run.emits_pure _
        | breaks fault => exact Run.emits_fail _
        | silent => exact expiring
      · exact Run.emits_fail _

theorem tryAttempt_emits (user : Text) (attempt : Attempt) :
    Run.Emits (Event.BelongsTo .authentication) (tryAttempt around user attempt) :=
  Run.emits_bind (Run.emits_record rfl) fun _ =>
    Run.emits_bind (Run.emits_ask _) fun _ => Run.emits_pure _

theorem offerIdentities_emits (user : Text) (identities : List PublicKey) :
    Run.Emits (Event.BelongsTo .authentication) (offerIdentities around user identities) := by
  induction identities with
  | nil => exact Run.emits_pure _
  | cons key rest ih =>
      refine Run.emits_bind (tryAttempt_emits user _) fun answer => ?_
      cases answer with
      | accepted => exact Run.emits_pure _
      | rejected => exact ih
      | failed cause => exact ih
      | silent => exact Run.emits_pure _

theorem offerSigners_emits (user : Text) (hash : Option SignatureHash) (signers : List SigningKey) :
    Run.Emits (Event.BelongsTo .authentication) (offerSigners around user hash signers) := by
  induction signers with
  | nil => exact Run.emits_pure _
  | cons key rest ih =>
      refine Run.emits_bind (tryAttempt_emits user _) fun answer => ?_
      cases answer with
      | accepted => exact Run.emits_pure _
      | rejected => exact ih
      | failed cause => exact Run.emits_pure _
      | silent => exact Run.emits_pure _

/-- The question for a digest is not seen from outside. -/
theorem useSigners_emits (user : Text) (signers : List SigningKey) :
    Run.Emits (Event.BelongsTo .authentication) (useSigners around user signers) := by
  refine Run.emits_bind (Run.emits_ask _) fun answer => ?_
  cases answer with
  | told hash => exact offerSigners_emits user hash signers
  | broken fault => exact Run.emits_pure _
  | silent => exact Run.emits_pure _

theorem use_emits (user : Text) (method : Method) :
    Run.Emits (Event.BelongsTo .authentication) (method.use around user) := by
  cases method with
  | agent identities => exact offerIdentities_emits user identities
  | signers keys => exact useSigners_emits user keys
  | password text => exact tryAttempt_emits user _
  | caller method => exact tryAttempt_emits user _

theorem authenticate_emits (around : Surroundings σ) (destination : Destination) (user : Text)
    (proxyLine : Option Text) (methods : List Method) :
    Run.Emits (Event.Within .authentication)
      (authenticate around user (expire around destination proxyLine) methods) := by
  induction methods with
  | nil => exact Run.emits_fail _
  | cons method rest ih =>
      refine Run.emits_bind ((use_emits user method).imp fun _ => Event.BelongsTo.within) fun answer => ?_
      cases answer with
      | accepted => exact Run.emits_pure _
      | rejected => exact ih
      | failed cause => exact Run.emits_fail _
      | silent =>
          exact fun state event member =>
            Event.within_none (expire_emits proxyLine state event member)

/-- A step causes no event of another step. -/
theorem Point.perform_emits (around : Surroundings σ) (destination : Destination) (point : Point) :
    Run.Emits (Event.Within point.step) (point.perform around destination) := by
  have own : ∀ {step : Step} {α β : Type} {run : Run σ α} {view : α → β}, run.Emits (Event.BelongsTo step) →
      Run.Emits (Event.Within step) (run >>= fun value => pure (view value)) := fun emits =>
    Run.emits_bind (emits.imp fun _ => Event.BelongsTo.within) fun _ => Run.emits_pure _
  cases point with
  | keys => exact own (loadKeys_emits _ _)
  | agent => exact own agentKeys_emits
  | hostLists => exact own openHostLists_emits
  | proxyCommand => exact own resolveProxy_emits
  | opening => exact own (openConnection_emits _)
  | handshake => exact Run.emits_bind (shakeHands_emits _ _) fun _ => Run.emits_pure _
  | authentication => exact Run.emits_bind (authenticate_emits _ _ _ _ _) fun _ => Run.emits_pure _
  | connected => exact Run.emits_pure _

end Dial

end SecureShell
