/-
Module: SecureShell.Proofs.KeyPrompts
Purpose: Which keys the terminal is asked about when keys are loaded, and what comes of each. Whether a key is asked
  about depends on the key alone; which answer it gets depends on all questions before it. So the trials of all keys
  are told first, every key that is asked about taking the next answer; loading makes these trials in order, up to
  and including the first that fails, and does not look at any key behind it.
Main exports: KeyMaterial.OpensWith, KeyMaterial.StaysShut, KeyMaterial.isAsked, KeyTrial, KeyTrial.Opens,
  KeyTrial.Fails, keyTrials, promptsIn, askedAbout, Loading, loadKeys_loading
-/
import Mathlib.Data.List.Forall2
import SecureShell.Connection.KeyLoading

namespace SecureShell

variable {σ : Type}

/-! ### Keys and passphrases -/

namespace KeyMaterial

/-- A passphrase opens a key: the key is text, and the text decodes with it. -/
def OpensWith (around : Surroundings σ) (key : KeyMaterial) (passphrase : Option Text) (signer : SigningKey) :
    Prop :=
  ∃ text, Utf8.decode key.content = .ok text ∧ around.decodeKey text passphrase = .ok signer

/-- A key that is text stays shut: the text does not decode with a passphrase. -/
def StaysShut (around : Surroundings σ) (key : KeyMaterial) (passphrase : Option Text) (fault : KeyFault) : Prop :=
  ∃ text, Utf8.decode key.content = .ok text ∧ around.decodeKey text passphrase = .error fault

/-- Whether a key is text that stays shut with its own passphrase. -/
def isShut (around : Surroundings σ) (key : KeyMaterial) : Bool :=
  match Utf8.decode key.content with
  | .error _ => false
  | .ok text =>
      match around.decodeKey text key.passphrase with
      | .ok _ => false
      | .error _ => true

theorem isShut_iff (around : Surroundings σ) (key : KeyMaterial) :
    key.isShut around = true ↔ ∃ fault, key.StaysShut around key.passphrase fault := by
  unfold isShut StaysShut
  cases readable : Utf8.decode key.content with
  | error fault => simp
  | ok text => cases decoded : around.decodeKey text key.passphrase <;> simp [decoded]

/-- Whether the passphrase of a key is asked for. -/
def isAsked (around : Surroundings σ) (prompting : Bool) (key : KeyMaterial) : Bool :=
  prompting && key.isShut around

theorem OpensWith.not_staysShut {around : Surroundings σ} {key : KeyMaterial} {passphrase : Option Text}
    {signer : SigningKey} {fault : KeyFault} (opened : key.OpensWith around passphrase signer) :
    ¬ key.StaysShut around passphrase fault := by
  rintro ⟨text, readable, rejected⟩
  obtain ⟨other, same, decoded⟩ := opened
  obtain rfl := Except.ok.inj (same.symm.trans readable)
  rw [decoded] at rejected
  cases rejected

theorem OpensWith.unique {around : Surroundings σ} {key : KeyMaterial} {passphrase : Option Text}
    {signer other : SigningKey} (opened : key.OpensWith around passphrase signer)
    (again : key.OpensWith around passphrase other) : signer = other := by
  obtain ⟨text, readable, decoded⟩ := opened
  obtain ⟨same, readAgain, decodedAgain⟩ := again
  obtain rfl := Except.ok.inj (readable.symm.trans readAgain)
  exact Except.ok.inj (decoded.symm.trans decodedAgain)

theorem StaysShut.unique {around : Surroundings σ} {key : KeyMaterial} {passphrase : Option Text}
    {fault other : KeyFault} (shut : key.StaysShut around passphrase fault)
    (again : key.StaysShut around passphrase other) : fault = other := by
  obtain ⟨text, readable, rejected⟩ := shut
  obtain ⟨same, readAgain, rejectedAgain⟩ := again
  obtain rfl := Except.ok.inj (readable.symm.trans readAgain)
  exact Except.error.inj (rejected.symm.trans rejectedAgain)

theorem StaysShut.not_unreadable {around : Surroundings σ} {key : KeyMaterial} {passphrase : Option Text}
    {fault : KeyFault} (shut : key.StaysShut around passphrase fault) (cause : Utf8.Fault) :
    Utf8.decode key.content ≠ .error cause := by
  obtain ⟨text, readable, _⟩ := shut
  rw [readable]
  exact nofun

end KeyMaterial

/-! ### Trials -/

/-- A key with what the terminal answers about it, if it is asked. -/
structure KeyTrial where
  key : KeyMaterial
  reply : Option (Except SystemError Text)

namespace KeyTrial

/-- A trial gives a signing key: the key's own passphrase opens it, or it stays shut and the answer opens it. -/
inductive Opens (around : Surroundings σ) : KeyTrial → SigningKey → Prop where
  | own {key : KeyMaterial} {reply : Option (Except SystemError Text)} {signer : SigningKey}
      (opened : key.OpensWith around key.passphrase signer) : Opens around ⟨key, reply⟩ signer
  | answered {key : KeyMaterial} {fault : KeyFault} {answer : Text} {signer : SigningKey}
      (shut : key.StaysShut around key.passphrase fault) (opened : key.OpensWith around (some answer) signer) :
      Opens around ⟨key, some (.ok answer)⟩ signer

/-- A trial fails for good: the key is no text, or it stays shut and nobody is asked, or there is no answer, or it
stays shut with the answer too. -/
inductive Fails (around : Surroundings σ) : KeyTrial → KeyRefusal → Prop where
  | notText {key : KeyMaterial} {reply : Option (Except SystemError Text)} {fault : Utf8.Fault}
      (unreadable : Utf8.decode key.content = .error fault) : Fails around ⟨key, reply⟩ .notText
  | unasked {key : KeyMaterial} {fault : KeyFault} (shut : key.StaysShut around key.passphrase fault) :
      Fails around ⟨key, none⟩ (.undecodable fault)
  | unanswered {key : KeyMaterial} {fault : KeyFault} {cause : SystemError}
      (shut : key.StaysShut around key.passphrase fault) :
      Fails around ⟨key, some (.error cause)⟩ (.passphraseUnread cause)
  | mistaken {key : KeyMaterial} {fault again : KeyFault} {answer : Text}
      (shut : key.StaysShut around key.passphrase fault) (rejected : key.StaysShut around (some answer) again) :
      Fails around ⟨key, some (.ok answer)⟩ (.undecodable again)

variable {around : Surroundings σ} {trial : KeyTrial} {signer other : SigningKey} {refusal : KeyRefusal}

theorem Opens.unique (opened : trial.Opens around signer) (again : trial.Opens around other) : signer = other := by
  cases opened with
  | own opened =>
      cases again with
      | own again => exact opened.unique again
      | answered shut _ => exact absurd shut opened.not_staysShut
  | answered shut opened =>
      cases again with
      | own again => exact absurd shut again.not_staysShut
      | answered _ again => exact opened.unique again

theorem Opens.not_fails (opened : trial.Opens around signer) : ¬ trial.Fails around refusal := by
  intro fails
  cases fails with
  | notText unreadable =>
      rcases opened with ⟨text, readable, _⟩ | ⟨_, text, readable, _⟩ <;>
        exact absurd (readable.symm.trans unreadable) nofun
  | unasked shut =>
      cases opened with
      | own opened => exact opened.not_staysShut shut
  | unanswered shut =>
      cases opened with
      | own opened => exact opened.not_staysShut shut
  | mistaken shut rejected =>
      cases opened with
      | own opened => exact opened.not_staysShut shut
      | answered _ opened => exact opened.not_staysShut rejected

theorem Fails.unique {other : KeyRefusal} (fails : trial.Fails around refusal) (again : trial.Fails around other) :
    refusal = other := by
  cases fails with
  | notText unreadable =>
      cases again with
      | notText _ => rfl
      | unasked shut => exact absurd unreadable (shut.not_unreadable _)
      | unanswered shut => exact absurd unreadable (shut.not_unreadable _)
      | mistaken shut _ => exact absurd unreadable (shut.not_unreadable _)
  | unasked shut =>
      cases again with
      | notText unreadable => exact absurd unreadable (shut.not_unreadable _)
      | unasked again => rw [shut.unique again]
  | unanswered shut =>
      cases again with
      | notText unreadable => exact absurd unreadable (shut.not_unreadable _)
      | unanswered _ => rfl
  | mistaken shut rejected =>
      cases again with
      | notText unreadable => exact absurd unreadable (shut.not_unreadable _)
      | mistaken _ again => rw [rejected.unique again]

/-- Where all trials open their keys none of them fails. -/
theorem not_fails_of_mem {trials : List KeyTrial} {signers : List SigningKey}
    (opens : List.Forall₂ (Opens around) trials signers) (member : trial ∈ trials) : ¬ trial.Fails around refusal := by
  induction opens with
  | nil => cases member
  | cons opened _ ih =>
      rcases List.mem_cons.mp member with rfl | member
      · exact opened.not_fails
      · exact ih member

end KeyTrial

/-- How the terminal replies to the question for the passphrase of a key, which names the key by its path or as one
without a file, and the state that this leaves. -/
def KeyMaterial.reply (around : Surroundings σ) (key : KeyMaterial) (state : σ) : Except SystemError Text × σ :=
  around.askPassphrase
    ("Enter passphrase for key '".toList ++ key.path.elim "(inline key)".toList Path.text ++ "': ".toList) state

theorem KeyMaterial.reply_eq (around : Surroundings σ) (key : KeyMaterial) (state : σ) :
    around.askPassphrase key.question state = key.reply around state := by
  simp only [question_eq, reply]

/-- What the terminal answers about a key, if it is asked. -/
def KeyMaterial.trial (around : Surroundings σ) (prompting : Bool) (key : KeyMaterial) (state : σ) : KeyTrial :=
  ⟨key, if key.isAsked around prompting then some (key.reply around state).1 else none⟩

/-- The keys that are asked about, in order. -/
def keysAsked (around : Surroundings σ) (prompting : Bool) (keys : List KeyMaterial) : List KeyMaterial :=
  keys.filter (·.isAsked around prompting)

theorem keysAsked_cons (around : Surroundings σ) (prompting : Bool) (key : KeyMaterial) (rest : List KeyMaterial) :
    keysAsked around prompting (key :: rest) = keysAsked around prompting [key] ++ keysAsked around prompting rest :=
  List.filter_append [key] rest

/-- The state that questions about keys leave when they are asked in order. -/
def askedAbout (around : Surroundings σ) (keys : List KeyMaterial) (state : σ) : σ :=
  keys.foldl (fun state key => (key.reply around state).2) state

theorem askedAbout_append (around : Surroundings σ) (front back : List KeyMaterial) (state : σ) :
    askedAbout around (front ++ back) state = askedAbout around back (askedAbout around front state) :=
  List.foldl_append

/-- The trials of all keys if they are made one after the other. Of the answers of the terminal each key that is
asked about takes the next one. -/
def keyTrials (around : Surroundings σ) (prompting : Bool) : List KeyMaterial → σ → List KeyTrial
  | [], _ => []
  | key :: rest, state =>
      key.trial around prompting state ::
        keyTrials around prompting rest (askedAbout around (keysAsked around prompting [key]) state)

theorem map_key_keyTrials (around : Surroundings σ) (prompting : Bool) (keys : List KeyMaterial) (state : σ) :
    (keyTrials around prompting keys state).map KeyTrial.key = keys := by
  induction keys generalizing state with
  | nil => rfl
  | cons key rest ih => rw [keyTrials, List.map_cons, ih, KeyMaterial.trial]

/-! ### Prompts -/

/-- The label of the key that a prompt is about. -/
def Event.promptLabel? : Event → Option Text
  | .passphraseAsked label => some label
  | _ => none

/-- The prompts among events, in order, by the labels of their keys. -/
def promptsIn (events : List Event) : List Text :=
  events.filterMap Event.promptLabel?

theorem promptsIn_append (events more : List Event) :
    promptsIn (events ++ more) = promptsIn events ++ promptsIn more :=
  List.filterMap_append

/-- Of certain keys those that stay shut are asked about if prompting is on, in order, and nothing else is asked: the
prompts are theirs, and the terminal is left as the questions about them leave it. -/
structure Asks {α : Type} (around : Surroundings σ) (prompting : Bool) (tried : List KeyMaterial) (state : σ)
    (report : Report σ α) : Prop where
  prompts : promptsIn report.events =
    (keysAsked around prompting tried).map fun key => key.path.elim "(inline key)".toList Path.text
  terminal : report.state = askedAbout around (keysAsked around prompting tried) state

variable {around : Surroundings σ} {prompting : Bool}

/-- Questions about one key and then about others are questions about all of them. -/
theorem Asks.cons {α β γ : Type} {key : KeyMaterial} {tried : List KeyMaterial} {state : σ} {first : Report σ α}
    {rest : Report σ β} (result : Except ConnectionFailure γ) (head : Asks around prompting [key] state first)
    (tail : Asks around prompting tried first.state rest) :
    Asks around prompting (key :: tried) state ⟨result, first.events ++ rest.events, rest.state⟩ where
  prompts := by
    rw [keysAsked_cons around prompting key tried, List.map_append, ← head.prompts, ← tail.prompts,
      promptsIn_append]
  terminal := by
    rw [keysAsked_cons around prompting key tried, askedAbout_append, ← head.terminal, ← tail.terminal]

/-! ### One key -/

section

variable {key : KeyMaterial} {state : σ}

/-- What becomes of one key: it is asked about if it has to be, and what comes of it is what its trial comes to. -/
structure Loads (around : Surroundings σ) (prompting : Bool) (key : KeyMaterial) (state : σ)
    (report : Report σ SigningKey) : Prop where
  asks : Asks around prompting [key] state report
  outcome : (∃ signer, (key.trial around prompting state).Opens around signer ∧ report.result = .ok signer) ∨
    ∃ refusal, (key.trial around prompting state).Fails around refusal ∧
      report.result = .error (.unusableKey key.label refusal)

/-- Nothing is asked about a key that does not have to be asked about. -/
theorem Asks.of_unasked {α : Type} (unasked : key.isAsked around prompting = false) {report : Report σ α}
    (silent : promptsIn report.events = []) (same : report.state = state) :
    Asks around prompting [key] state report := by
  have none : keysAsked around prompting [key] = [] := List.filter_eq_nil_iff.mpr (by simp [unasked])
  constructor
  · rw [none, silent, List.map_nil]
  · rw [none, same]
    rfl

/-- A key that is asked about is asked about once. -/
theorem Asks.of_asked {α : Type} (asked : key.isAsked around prompting = true) {report : Report σ α}
    (once : promptsIn report.events = [key.label])
    (left : report.state = (key.reply around state).2) :
    Asks around prompting [key] state report := by
  have own : keysAsked around prompting [key] = [key] := List.filter_eq_self.mpr (by simp [asked])
  constructor
  · rw [own, once, List.map_singleton, KeyMaterial.label_eq]
  · rw [own, left]
    rfl

theorem trial_of_unasked (unasked : key.isAsked around prompting = false) :
    key.trial around prompting state = ⟨key, none⟩ := by
  simp [KeyMaterial.trial, unasked]

theorem trial_of_asked (asked : key.isAsked around prompting = true) :
    key.trial around prompting state = ⟨key, some (key.reply around state).1⟩ := by
  simp [KeyMaterial.trial, asked]

/-- A question about a key is one prompt, and its answer or the lack of one. -/
theorem askPassphrase_eq (around : Surroundings σ) (key : KeyMaterial) (state : σ) :
    key.askPassphrase around state =
      ⟨(key.reply around state).1.mapError fun cause =>
          .unusableKey key.label (.passphraseUnread cause),
        [.passphraseAsked key.label], (key.reply around state).2⟩ := by
  rw [KeyMaterial.askPassphrase, Run.record_bind, Run.ask_bind, KeyMaterial.reply_eq]
  cases (key.reply around state).1 <;> rfl

/-- A key that stays shut is opened by the answer, or not at all. -/
theorem retry_loads {text : Text} {fault : KeyFault} (asked : key.isAsked around prompting = true)
    (readable : Utf8.decode key.content = .ok text)
    (rejected : around.decodeKey text key.passphrase = .error fault) :
    Loads around prompting key state (key.retry around text state) := by
  have shut : key.StaysShut around key.passphrase fault := ⟨text, readable, rejected⟩
  have question := askPassphrase_eq around key state
  have trial : key.trial around prompting state = _ := trial_of_asked asked
  cases replied : (key.reply around state).1 with
  | error cause =>
      rw [replied] at question trial
      have ended : key.retry around text state = ⟨.error (.unusableKey key.label (.passphraseUnread cause)),
          [.passphraseAsked key.label], (key.reply around state).2⟩ :=
        Run.bind_of_error question
      rw [ended]
      exact ⟨.of_asked asked rfl rfl, .inr ⟨_, trial ▸ .unanswered shut, rfl⟩⟩
  | ok answer =>
      rw [replied] at question trial
      cases decoded : around.decodeKey text (some answer) with
      | ok signer =>
          have ended : key.retry around text state = ⟨.ok signer, [.passphraseAsked key.label, .keyDecoded signer],
              (key.reply around state).2⟩ := by
            rw [KeyMaterial.retry, Run.bind_of_ok question]
            simp only [decoded]
            rfl
          rw [ended]
          exact ⟨.of_asked asked rfl rfl, .inl ⟨signer, trial ▸ .answered shut ⟨text, readable, decoded⟩, rfl⟩⟩
      | error again =>
          have ended : key.retry around text state = ⟨.error (.unusableKey key.label (.undecodable again)),
              [.passphraseAsked key.label], (key.reply around state).2⟩ := by
            rw [KeyMaterial.retry, Run.bind_of_ok question]
            simp only [decoded]
            rfl
          rw [ended]
          exact ⟨.of_asked asked rfl rfl, .inr ⟨_, trial ▸ .mistaken shut ⟨text, readable, decoded⟩, rfl⟩⟩

/-- Loading a key comes to what its trial comes to. -/
theorem load_loads (around : Surroundings σ) (prompting : Bool) (key : KeyMaterial) (state : σ) :
    Loads around prompting key state (key.load around prompting state) := by
  cases readable : Utf8.decode key.content with
  | error fault =>
      have unasked : key.isAsked around prompting = false := by
        simp [KeyMaterial.isAsked, KeyMaterial.isShut, readable]
      have loaded : key.load around prompting = key.refuse .notText := by
        simp only [KeyMaterial.load, readable]
      rw [loaded]
      exact ⟨.of_unasked unasked rfl rfl, .inr ⟨_, trial_of_unasked unasked ▸ .notText readable, rfl⟩⟩
  | ok text =>
      cases decoded : around.decodeKey text key.passphrase with
      | ok signer =>
          have unasked : key.isAsked around prompting = false := by
            simp [KeyMaterial.isAsked, KeyMaterial.isShut, readable, decoded]
          have loaded : key.load around prompting = acceptKey signer := by
            simp only [KeyMaterial.load, readable, decoded]
          rw [loaded]
          exact ⟨.of_unasked unasked rfl rfl,
            .inl ⟨signer, trial_of_unasked unasked ▸ .own ⟨text, readable, decoded⟩, rfl⟩⟩
      | error fault =>
          have shut : key.isShut around = true := (key.isShut_iff around).mpr ⟨fault, text, readable, decoded⟩
          cases prompting with
          | true =>
              have loaded : key.load around true = key.retry around text := by
                simp only [KeyMaterial.load, readable, decoded, if_true]
              rw [loaded]
              exact retry_loads (by simp [KeyMaterial.isAsked, shut]) readable decoded
          | false =>
              have unasked : key.isAsked around false = false := rfl
              have loaded : key.load around false = key.refuse (.undecodable fault) := by
                simp [KeyMaterial.load, readable, decoded]
              rw [loaded]
              exact ⟨.of_unasked unasked rfl rfl,
                .inr ⟨_, trial_of_unasked unasked ▸ .unasked ⟨text, readable, decoded⟩, rfl⟩⟩

end

/-! ### All keys -/

/-- Behind a key that is loaded the others are loaded. -/
theorem loadKeys_cons_of_ok {key : KeyMaterial} {state later : σ} {signer : SigningKey} {events : List Event}
    (loaded : key.load around prompting state = ⟨.ok signer, events, later⟩) (others : List KeyMaterial) :
    loadKeys around prompting (key :: others) state =
      ⟨(loadKeys around prompting others later).result.map (signer :: ·),
        events ++ (loadKeys around prompting others later).events,
        (loadKeys around prompting others later).state⟩ := by
  rw [loadKeys, Run.bind_of_ok loaded]
  rcases rest : loadKeys around prompting others later with ⟨failure | signers, more, last⟩
  · rw [Run.bind_of_error rest]
    rfl
  · rw [Run.bind_of_ok rest]
    simp [Report.after, Except.map]

/-- Behind a key that is refused no key is loaded. -/
theorem loadKeys_cons_of_error {key : KeyMaterial} {state later : σ} {failure : ConnectionFailure}
    {events : List Event} (refused : key.load around prompting state = ⟨.error failure, events, later⟩)
    (others : List KeyMaterial) :
    loadKeys around prompting (key :: others) state = ⟨.error failure, events, later⟩ :=
  Run.bind_of_error refused

/-- Either every trial opens its key, or the trials are made up to the first that fails, and what comes of them is the
same whatever keys follow. -/
theorem loadKeys_cases (around : Surroundings σ) (prompting : Bool) (keys : List KeyMaterial) (state : σ) :
    (∃ signers, List.Forall₂ (KeyTrial.Opens around) (keyTrials around prompting keys state) signers ∧
        (loadKeys around prompting keys state).result = .ok signers ∧
          Asks around prompting keys state (loadKeys around prompting keys state)) ∨
      ∃ front bad pending refusal report, keyTrials around prompting keys state = front ++ bad :: pending ∧
        (∀ trial ∈ front, ∃ signer, trial.Opens around signer) ∧ bad.Fails around refusal ∧
          report.result = .error (.unusableKey bad.key.label refusal) ∧
            Asks around prompting ((front ++ [bad]).map KeyTrial.key) state report ∧
              ∀ others, loadKeys around prompting ((front ++ [bad]).map KeyTrial.key ++ others) state = report := by
  induction keys generalizing state with
  | nil =>
      left
      exact ⟨[], .nil, rfl, rfl, rfl⟩
  | cons key rest ih =>
      obtain ⟨asks, outcome⟩ := load_loads around prompting key state
      rcases loaded : key.load around prompting state with ⟨result, events, later⟩
      rw [loaded] at asks outcome
      have trials : keyTrials around prompting (key :: rest) state =
          key.trial around prompting state :: keyTrials around prompting rest later := by
        rw [keyTrials, ← asks.terminal]
      rcases outcome with ⟨signer, opened, rfl⟩ | ⟨refusal, fails, rfl⟩
      · rcases ih later with
          ⟨signers, opens, whole, asksRest⟩ |
          ⟨front, bad, pending, refusal, report, split, opens, fails, failed, asksRest, same⟩
        · left
          refine ⟨signer :: signers, trials ▸ .cons opened opens, ?_, ?_⟩
          · rw [loadKeys_cons_of_ok loaded, whole]
            rfl
          · rw [loadKeys_cons_of_ok loaded]
            exact asks.cons _ asksRest
        · right
          refine ⟨key.trial around prompting state :: front, bad, pending, refusal,
            ⟨report.result.map (signer :: ·), events ++ report.events, report.state⟩, ?_, ?_, fails, ?_, ?_, ?_⟩
          · rw [trials, split, List.cons_append]
          · exact List.forall_mem_cons.mpr ⟨⟨signer, opened⟩, opens⟩
          · rw [failed]
            rfl
          · exact asks.cons _ asksRest
          · intro others
            have through := loadKeys_cons_of_ok loaded ((front ++ [bad]).map KeyTrial.key ++ others)
            rw [same others] at through
            exact through
      · right
        refine ⟨[], key.trial around prompting state, keyTrials around prompting rest later, refusal,
          ⟨.error (.unusableKey key.label refusal), events, later⟩, trials, by simp, fails, rfl,
          ⟨asks.prompts, asks.terminal⟩, ?_⟩
        intro others
        exact loadKeys_cons_of_error loaded others

/-- What loading keys comes to, told by the trials that are made and those that are not. -/
structure Loading (around : Surroundings σ) (prompting : Bool) (keys : List KeyMaterial) (state : σ)
    (report : Report σ (List SigningKey)) (made pending : List KeyTrial) : Prop where
  ordered : keys = (made ++ pending).map KeyTrial.key
  answered : keyTrials around prompting keys state = made ++ pending
  loads : ∀ signers, report.result = .ok signers ↔
    List.Forall₂ (KeyTrial.Opens around) (keyTrials around prompting keys state) signers
  refuses : ∀ failure, report.result = .error failure ↔ ∃ front bad refusal, made = front ++ [bad] ∧
    (∀ trial ∈ front, ∃ signer, trial.Opens around signer) ∧ bad.Fails around refusal ∧
      failure = .unusableKey (bad.key.path.elim "(inline key)".toList Path.text) refusal
  complete : ∀ signers, report.result = .ok signers → pending = []
  asks : Asks around prompting (made.map KeyTrial.key) state report
  unread : ∀ failure, report.result = .error failure →
    ∀ others, loadKeys around prompting (made.map KeyTrial.key ++ others) state = report

section

variable {keys : List KeyMaterial} {state : σ} {report : Report σ (List SigningKey)}

/-- Where every trial opens its key, all trials are made. -/
theorem Loading.of_opens {signers : List SigningKey}
    (opens : List.Forall₂ (KeyTrial.Opens around) (keyTrials around prompting keys state) signers)
    (loaded : report.result = .ok signers) (asks : Asks around prompting keys state report) :
    Loading around prompting keys state report (keyTrials around prompting keys state) [] where
  ordered := by rw [List.append_nil, map_key_keyTrials]
  answered := by rw [List.append_nil]
  loads := by
    intro others
    constructor
    · intro again
      rw [loaded] at again
      exact Except.ok.inj again ▸ opens
    · intro again
      have unique : Relator.RightUnique (KeyTrial.Opens around) := fun _ _ _ => KeyTrial.Opens.unique
      rw [loaded, unique.forall₂ opens again]
  refuses := by
    intro failure
    constructor
    · intro failed
      rw [loaded] at failed
      cases failed
    · rintro ⟨front, bad, refusal, last, _, fails, _⟩
      have member : bad ∈ keyTrials around prompting keys state := by rw [last]; simp
      exact absurd fails (KeyTrial.not_fails_of_mem opens member)
  complete := fun _ _ => rfl
  asks := by
    rw [map_key_keyTrials]
    exact asks
  unread := by
    intro failure failed
    rw [loaded] at failed
    cases failed

/-- Where a trial fails, the trials are made up to the first one that does. -/
theorem Loading.of_fails {front pending : List KeyTrial} {bad : KeyTrial} {refusal : KeyRefusal}
    (split : keyTrials around prompting keys state = front ++ bad :: pending)
    (opens : ∀ trial ∈ front, ∃ signer, trial.Opens around signer) (fails : bad.Fails around refusal)
    (failed : report.result = .error (.unusableKey bad.key.label refusal))
    (asks : Asks around prompting ((front ++ [bad]).map KeyTrial.key) state report)
    (same : ∀ others, loadKeys around prompting ((front ++ [bad]).map KeyTrial.key ++ others) state = report) :
    Loading around prompting keys state report (front ++ [bad]) pending where
  ordered := by rw [List.append_assoc, List.singleton_append, ← split, map_key_keyTrials]
  answered := by rw [split, List.append_assoc, List.singleton_append]
  loads := by
    intro signers
    constructor
    · intro loaded
      rw [failed] at loaded
      cases loaded
    · intro all
      have member : bad ∈ keyTrials around prompting keys state := by rw [split]; simp
      exact absurd fails (KeyTrial.not_fails_of_mem all member)
  refuses := by
    rw [KeyMaterial.label_eq] at failed
    intro failure
    constructor
    · intro again
      rw [failed] at again
      exact ⟨front, bad, refusal, rfl, opens, fails, (Except.error.inj again).symm⟩
    · rintro ⟨before, last, reason, ends, _, again, rfl⟩
      obtain ⟨-, rfl⟩ := List.append_singleton_inj.mp ends
      rw [failed, fails.unique again]
  complete := by
    intro signers loaded
    rw [failed] at loaded
    cases loaded
  asks := asks
  unread := fun _ _ => same

end

/-- Loading keys gives their signing keys in order exactly if every trial opens its key: with the key's own passphrase,
or, if prompting is on, with the answer to one prompt about it. Otherwise the failure is that of the first trial that
fails, under the label of its key. With prompting on there is one prompt for each key that is text and does not decode
with its own passphrase, in order and as far as the trials are made; there is no other prompt; and no key behind a
failing one makes any difference. -/
theorem loadKeys_loading (around : Surroundings σ) (prompting : Bool) (keys : List KeyMaterial) (state : σ) :
    ∃ made pending, Loading around prompting keys state (loadKeys around prompting keys state) made pending := by
  rcases loadKeys_cases around prompting keys state with
    ⟨signers, opens, loaded, asks⟩ | ⟨front, bad, pending, refusal, report, split, opens, fails, failed, asks, same⟩
  · exact ⟨_, [], .of_opens opens loaded asks⟩
  · have whole : (front ++ [bad]).map KeyTrial.key ++ pending.map KeyTrial.key = keys := by
      rw [← List.map_append, List.append_assoc, List.singleton_append, ← split, map_key_keyTrials]
    have ended : loadKeys around prompting keys state = report := by
      rw [← whole]
      exact same _
    rw [ended]
    exact ⟨_, pending, .of_fails split opens fails failed asks same⟩

end SecureShell
