/-
Module: SecureShell.Proofs.IdentityScope
Purpose: Which keys a host is offered, with which passphrases, and in which order. A registration offers its key once
  for each of its patterns that fits the host, with its own passphrase; behind the registrations comes the identity
  file that the sources name, if it exists, with the passphrase that has been preferred last. These keys are what a
  configuration gives for the host, or else the first failure on the way to them is given; no other file is read.
Main exports: Registration, Registration.offers, OfferedKey, OfferedKey.Gives, IdentityFileAt, Offered,
  IdentityFailure, ReadFor, Configuration.identities_eq, Configuration.IdentityScope, Configuration.identities_scoped
-/
import SecureShell.Proofs.EveryHost
import SecureShell.Proofs.LayeredLookup

namespace SecureShell

/-! ### Registrations -/

/-- A registration of an identity: where its key is, the passphrase for it, and the patterns of the hosts that it is
for. -/
structure Registration where
  origin : IdentityOrigin
  passphrase : Option Text
  patterns : List Text

/-- A key that is offered to a host: where it is, and the passphrase that goes with it. -/
structure OfferedKey where
  origin : IdentityOrigin
  passphrase : Option Text

namespace Registration

/-- The patterns that count: the one for every host if none are given. -/
def scope (registration : Registration) : List Text :=
  if registration.patterns = [] then [Identity.everyHost] else registration.patterns

/-- What a registration offers to a host: its key, once for each pattern that fits the host. -/
def offers (host : Text) (registration : Registration) : List OfferedKey :=
  (registration.scope.filter (Glob.matches · host)).map fun _ => ⟨registration.origin, registration.passphrase⟩

end Registration

/-- What a preference registers, its path read from settled directories. -/
def Preference.registration? (directory home : Path) : Preference → Option Registration
  | .identityFile written secret patterns => some ⟨.file (Path.expand written directory home), secret, patterns⟩
  | .identityKey material secret patterns => some ⟨.inline material, secret, patterns⟩
  | _ => none

/-- The passphrase that a preference names. -/
def Preference.passphrase? : Preference → Option Text
  | .passphrase text => some text
  | _ => none

/-- The registrations of a caller, in the order of their calls. -/
def registrations (directory home : Path) (preferences : List Preference) : List Registration :=
  preferences.filterMap (Preference.registration? directory home)

/-- The latest preference for the passphrase. -/
def preferredPassphrase (preferences : List Preference) : Option Text :=
  (preferences.filterMap Preference.passphrase?).getLast?

theorem said_passphrase (files : FileSystem) (directory home : Path) (preferences : List Preference) :
    said files directory home .passphrase preferences = preferences.filterMap Preference.passphrase? := by
  apply List.filterMap_congr
  intro preference _
  cases preference <;> simp [Preference.subject, Preference.content, Preference.passphrase?]

theorem said_identities (files : FileSystem) (directory home : Path) (preferences : List Preference) :
    said files directory home .identities preferences = (registrations directory home preferences).map
      fun registration => Identity.registered registration.origin registration.passphrase registration.patterns := by
  rw [registrations, List.map_filterMap]
  apply List.filterMap_congr
  intro preference _
  cases preference <;> simp [Preference.subject, Preference.content, Preference.registration?]

/-! ### Keys on offer -/

/-- The key that an identity stands for. -/
def Identity.offered (identity : Identity) : OfferedKey :=
  ⟨identity.origin, identity.passphrase⟩

/-- Of the identities of a registration those for a host are what it offers. -/
theorem Registration.offers_eq (host : Text) (registration : Registration) :
    ((Identity.registered registration.origin registration.passphrase registration.patterns).filter
      (·.isFor host)).map Identity.offered = registration.offers host := by
  rw [Identity.registered, List.filter_map, List.map_map]
  rfl

namespace OfferedKey

/-- The key material that a file system gives for a key: its content, and its file if it has one, with the passphrase
that goes with it. -/
inductive Gives (files : FileSystem) : OfferedKey → KeyMaterial → Prop where
  | inline {content : Bytes} {passphrase : Option Text} :
      Gives files ⟨.inline content, passphrase⟩ ⟨content, none, passphrase⟩
  | file {path : Path} {content : Bytes} {passphrase : Option Text} (read : files.read path = .ok content) :
      Gives files ⟨.file path, passphrase⟩ ⟨content, some path, passphrase⟩

/-- A key whose file cannot be read, and the failure that names the file. -/
inductive Unreadable (files : FileSystem) : OfferedKey → ConfigFailure → Prop where
  | file {path : Path} {cause : SystemError} {passphrase : Option Text} (refused : files.read path = .error cause) :
      Unreadable files ⟨.file path, passphrase⟩ (.unreadableIdentity path cause)

/-- The failure of the first key that cannot be read. -/
def FirstUnreadable (files : FileSystem) (keys : List OfferedKey) (failure : ConfigFailure) : Prop :=
  ∃ before key after, keys = before ++ key :: after ∧
    (∀ earlier ∈ before, ∃ material, Gives files earlier material) ∧ Unreadable files key failure

/-- Reading a key. -/
def load (files : FileSystem) (key : OfferedKey) : Except ConfigFailure KeyMaterial :=
  Configuration.identityKey files ⟨Identity.everyHost, key.origin, key.passphrase⟩

variable {files : FileSystem} {key : OfferedKey}

theorem load_file (files : FileSystem) (path : Path) (passphrase : Option Text) :
    load files ⟨.file path, passphrase⟩ =
      match files.read path with
      | .ok content => .ok ⟨content, some path, passphrase⟩
      | .error cause => .error (.unreadableIdentity path cause) := by
  simp only [load, Configuration.identityKey, Configuration.readKey]
  cases files.read path <;> rfl

theorem load_eq_ok_iff {material : KeyMaterial} : key.load files = .ok material ↔ Gives files key material := by
  constructor
  · intro loaded
    obtain ⟨⟨content⟩ | ⟨path⟩, passphrase⟩ := key
    · cases loaded
      exact .inline
    · rw [load_file] at loaded
      split at loaded
      · next content read =>
        cases loaded
        exact .file read
      · cases loaded
  · intro gives
    cases gives with
    | inline => rfl
    | file read => rw [load_file, read]

theorem load_eq_error_iff {failure : ConfigFailure} :
    key.load files = .error failure ↔ Unreadable files key failure := by
  constructor
  · intro failed
    obtain ⟨⟨content⟩ | ⟨path⟩, passphrase⟩ := key
    · cases failed
    · rw [load_file] at failed
      split at failed
      · cases failed
      · next cause refused =>
        cases failed
        exact .file refused
  · intro unreadable
    cases unreadable with
    | file refused => rw [load_file, refused]

/-- The keys of a list are had exactly if each can be read. -/
theorem forall₂_gives_iff {keys : List OfferedKey} {materials : List KeyMaterial} :
    keys.mapM (load files) = .ok materials ↔ List.Forall₂ (Gives files) keys materials := by
  simp only [mapM_eq_ok_iff, load_eq_ok_iff]

theorem forall_gives_iff {keys : List OfferedKey} :
    (∃ materials, keys.mapM (load files) = .ok materials) ↔ ∀ key ∈ keys, ∃ material, Gives files key material := by
  simp only [exists_mapM_eq_ok_iff, load_eq_ok_iff]

theorem firstUnreadable_iff {keys : List OfferedKey} {failure : ConfigFailure} :
    keys.mapM (load files) = .error failure ↔ FirstUnreadable files keys failure := by
  simp only [mapM_eq_error_iff, FirstUnreadable, load_eq_ok_iff, load_eq_error_iff]

/-- A key is read alike where its file is. -/
theorem load_congr {other : FileSystem} (same : ∀ path, key.origin = .file path → other.read path = files.read path) :
    key.load other = key.load files := by
  obtain ⟨⟨content⟩ | ⟨path⟩, passphrase⟩ := key
  · rfl
  · rw [load_file, load_file, same path rfl]

end OfferedKey

/-! ### The identity file of the sources -/

namespace Configuration

/-- The path that a path written for an answer of the sources stands for: it is read from the directory of the source
that gives the answer, or from the working directory if no source does. -/
def placeFor (configuration : Configuration) (answer : Text × Option Path) (written : Text) : Path :=
  Path.expand written (answer.2.getD configuration.settings.directory) configuration.settings.home

/-- The path of the identity file that an answer of the sources names, with the values of the host in it. -/
def namedIdentity (configuration : Configuration) (host : Text) (port : Port) (answer : Text × Option Path) : Path :=
  configuration.placeFor answer
    (Verbs.expand answer.1 (configuration.user host) port.text (configuration.hostname host))

end Configuration

/-- The identity file of a host: the one that is named, unless that is the file of the old name and does not exist;
then it is the file of the new name. -/
inductive IdentityFileAt (configuration : Configuration) (files : FileSystem) (host : Text) (port : Port) :
    Path → Prop where
  | named {answer : Text × Option Path}
      (said : configuration.store.AnswerTo host "IdentityFile".toList answer)
      (kept : (configuration.namedIdentity host port answer).SameComponents
          (configuration.placeFor answer "~/.ssh/identity".toList) →
        files.present (configuration.placeFor answer "~/.ssh/identity".toList) = true) :
      IdentityFileAt configuration files host port (configuration.namedIdentity host port answer)
  | modern {answer : Text × Option Path}
      (said : configuration.store.AnswerTo host "IdentityFile".toList answer)
      (legacy : (configuration.namedIdentity host port answer).SameComponents
        (configuration.placeFor answer "~/.ssh/identity".toList))
      (missing : files.present (configuration.placeFor answer "~/.ssh/identity".toList) = false) :
      IdentityFileAt configuration files host port (configuration.placeFor answer "~/.ssh/id_rsa".toList)

section

variable {configuration : Configuration} {files : FileSystem} {host : Text} {port : Port} {path : Path}

/-- The path that the sources come to, with the two names written out. -/
theorem identityPath_eq : configuration.identityPath files host port =
    let answer := configuration.store.getWithBase host "IdentityFile".toList
    let legacy := configuration.placeFor answer "~/.ssh/identity".toList
    if (configuration.namedIdentity host port answer).SameComponents legacy ∧ files.present legacy = false then
      configuration.placeFor answer "~/.ssh/id_rsa".toList
    else configuration.namedIdentity host port answer :=
  rfl

/-- Every host has one identity file. -/
theorem identityFileAt_iff (valued : configuration.store.Valued) :
    IdentityFileAt configuration files host port path ↔ path = configuration.identityPath files host port := by
  rw [identityPath_eq]
  constructor
  · intro located
    cases located with
    | named said kept =>
        obtain rfl := (Store.answerTo_iff valued ..).mp said
        refine (if_neg ?_).symm
        rintro ⟨legacy, missing⟩
        rw [kept legacy] at missing
        cases missing
    | modern said legacy missing =>
        obtain rfl := (Store.answerTo_iff valued ..).mp said
        exact (if_pos ⟨legacy, missing⟩).symm
  · rintro rfl
    have said := Store.getWithBase_answerTo valued host "IdentityFile".toList
    dsimp only
    split
    · next stale => exact .modern said stale.1 stale.2
    · next kept =>
      refine .named said fun legacy => ?_
      by_contra absent
      exact kept ⟨legacy, Bool.eq_false_iff.mpr absent⟩

end

/-! ### What a host is offered -/

/-- What the registrations of a caller offer to a host, in order. -/
def registeredOffers (preferences : List Preference) (configuration : Configuration) (host : Text) :
    List OfferedKey :=
  (registrations configuration.settings.directory configuration.settings.home preferences).flatMap
    (Registration.offers host)

/-- All keys that are offered to a host: what the registrations offer, and behind it the key in the identity file with
the latest passphrase, if the file exists. -/
inductive Offered (preferences : List Preference) (configuration : Configuration) (files : FileSystem) (host : Text)
    (port : Port) : List OfferedKey → Prop where
  | withFile {path : Path} (located : IdentityFileAt configuration files host port path)
      (present : files.present path = true) :
      Offered preferences configuration files host port
        (registeredOffers preferences configuration host ++ [⟨.file path, preferredPassphrase preferences⟩])
  | withoutFile {path : Path} (located : IdentityFileAt configuration files host port path)
      (absent : files.present path = false) :
      Offered preferences configuration files host port (registeredOffers preferences configuration host)

/-- The first failure on the way to the keys of a host: a registered file that cannot be read, or else the port, or else
an identity file that cannot be read. -/
inductive IdentityFailure (preferences : List Preference) (configuration : Configuration) (files : FileSystem)
    (host : Text) : ConfigFailure → Prop where
  | registered {failure : ConfigFailure}
      (refused : OfferedKey.FirstUnreadable files (registeredOffers preferences configuration host) failure) :
      IdentityFailure preferences configuration files host failure
  | port {failure : ConfigFailure}
      (readable : ∀ key ∈ registeredOffers preferences configuration host, ∃ material, key.Gives files material)
      (unsettled : configuration.port host = .error failure) :
      IdentityFailure preferences configuration files host failure
  | identityFile {port : Port} {path : Path} {cause : SystemError}
      (readable : ∀ key ∈ registeredOffers preferences configuration host, ∃ material, key.Gives files material)
      (settled : configuration.port host = .ok port)
      (located : IdentityFileAt configuration files host port path)
      (present : files.present path = true)
      (refused : files.read path = .error cause) :
      IdentityFailure preferences configuration files host (.unreadableIdentity path cause)

/-- The files that may be read for a host: those of the keys that it is offered. -/
inductive ReadFor (preferences : List Preference) (configuration : Configuration) (files : FileSystem) (host : Text) :
    Path → Prop where
  | registered {path : Path} {passphrase : Option Text}
      (among : ⟨.file path, passphrase⟩ ∈ registeredOffers preferences configuration host) :
      ReadFor preferences configuration files host path
  | identityFile {port : Port} {path : Path} (settled : configuration.port host = .ok port)
      (located : IdentityFileAt configuration files host port path) (present : files.present path = true) :
      ReadFor preferences configuration files host path

namespace Configuration

/-- The keys of the identities that are for a host. -/
def heldOffers (configuration : Configuration) (host : Text) : List OfferedKey :=
  (configuration.settings.identities.filter (·.isFor host)).map Identity.offered

/-- The key in the identity file, if the file exists. -/
def ownOffer (configuration : Configuration) (files : FileSystem) (host : Text) (port : Port) : List OfferedKey :=
  if files.present (configuration.identityPath files host port) then
    [⟨.file (configuration.identityPath files host port), configuration.settings.passphrase⟩]
  else []

/-- The keys are had in one go through the list of offers, with the port in between. -/
theorem identities_eq (configuration : Configuration) (files : FileSystem) (host : Text) :
    configuration.identities files host = (do
      let registered ← (configuration.heldOffers host).mapM (OfferedKey.load files)
      let port ← configuration.port host
      let own ← (configuration.ownOffer files host port).mapM (OfferedKey.load files)
      pure (registered ++ own)) := by
  have held : identityKeys files (configuration.settings.identities.filter (·.isFor host)) =
      (configuration.heldOffers host).mapM (OfferedKey.load files) := by
    rw [identityKeys_eq, heldOffers, List.mapM_map]
    rfl
  rw [identities, held]
  refine bind_congr_of_ok fun registered _ => ?_
  simp only [identityFile, bind_assoc]
  refine bind_congr_of_ok fun port _ => ?_
  unfold ownOffer
  split
  · simp only [List.mapM_cons, List.mapM_nil, OfferedKey.load_file, readKey, pure_bind]
    cases files.read (configuration.identityPath files host port) <;> rfl
  · simp only [List.mapM_nil, pure_bind, List.append_nil]

section

variable {before files : FileSystem} {environment : Environment} {preferences : List Preference}
  {configuration : Configuration} {host : Text} {port : Port} {failure : ConfigFailure}

/-- The identities of a built configuration are those that the registrations offer. -/
theorem heldOffers_of_build (built : build before environment preferences = .ok configuration) (host : Text) :
    configuration.heldOffers host = registeredOffers preferences configuration host := by
  obtain ⟨sources, home, directory, summed⟩ := sum_of_build built
  have held : configuration.settings.identities =
      (registrations configuration.settings.directory configuration.settings.home preferences).flatMap
        fun registration => Identity.registered registration.origin registration.passphrase registration.patterns := by
    rw [summed]
    simp only [Settings.sum, Settings.sum.about, Settings.initial, said_identities, List.nil_append, List.flatMap_def]
  rw [heldOffers, registeredOffers, held, List.filter_flatMap, List.map_flatMap]
  simp only [Registration.offers_eq]

theorem passphrase_of_build (built : build before environment preferences = .ok configuration) :
    configuration.settings.passphrase = preferredPassphrase preferences := by
  obtain ⟨sources, home, directory, summed⟩ := sum_of_build built
  rw [summed]
  simp only [Settings.sum, Settings.sum.about, Settings.initial, said_passphrase, preferredPassphrase, Option.or_none]

theorem valued_of_build (built : build before environment preferences = .ok configuration) :
    configuration.store.Valued := by
  obtain ⟨found, parts⟩ := built_of_build built
  exact SourceList.load_valued parts.store

/-- The keys on offer, as a list that can be had at once. -/
theorem offered_iff (built : build before environment preferences = .ok configuration) {keys : List OfferedKey} :
    Offered preferences configuration files host port keys ↔
      keys = configuration.heldOffers host ++ configuration.ownOffer files host port := by
  have located {path : Path} : IdentityFileAt configuration files host port path ↔
      path = configuration.identityPath files host port := identityFileAt_iff (valued_of_build built)
  rw [heldOffers_of_build built, ownOffer, passphrase_of_build built]
  constructor
  · intro offered
    cases offered with
    | withFile named present =>
        obtain rfl := located.mp named
        rw [if_pos present]
    | withoutFile named absent =>
        obtain rfl := located.mp named
        rw [if_neg (Bool.eq_false_iff.mp absent), List.append_nil]
  · rintro rfl
    split
    · next present => exact .withFile (located.mpr rfl) present
    · next absent =>
      rw [List.append_nil]
      exact .withoutFile (located.mpr rfl) (Bool.eq_false_iff.mpr absent)

theorem identities_eq_ok_iff {keys : List KeyMaterial} : configuration.identities files host = .ok keys ↔
    ∃ port, configuration.port host = .ok port ∧
      (configuration.heldOffers host ++ configuration.ownOffer files host port).mapM (OfferedKey.load files)
        = .ok keys := by
  rw [identities_eq]
  constructor
  · intro had
    obtain ⟨registered, first, had⟩ := ok_of_bind had
    obtain ⟨port, settled, had⟩ := ok_of_bind had
    obtain ⟨own, second, had⟩ := ok_of_bind had
    cases had
    refine ⟨port, settled, ?_⟩
    rw [List.mapM_append, first, second]
    rfl
  · rintro ⟨port, settled, had⟩
    rw [List.mapM_append] at had
    obtain ⟨registered, first, had⟩ := ok_of_bind had
    obtain ⟨own, second, had⟩ := ok_of_bind had
    cases had
    exact bind_of_ok first (bind_of_ok settled (bind_of_ok second rfl))

theorem identities_eq_error_iff : configuration.identities files host = .error failure ↔
    (configuration.heldOffers host).mapM (OfferedKey.load files) = .error failure ∨
      (∃ registered, (configuration.heldOffers host).mapM (OfferedKey.load files) = .ok registered) ∧
        (configuration.port host = .error failure ∨ ∃ port, configuration.port host = .ok port ∧
          (configuration.ownOffer files host port).mapM (OfferedKey.load files) = .error failure) := by
  have behind (registered : List KeyMaterial) :
      (do
        let port ← configuration.port host
        let own ← (configuration.ownOffer files host port).mapM (OfferedKey.load files)
        pure (registered ++ own)) = .error failure ↔
      configuration.port host = .error failure ∨ ∃ port, configuration.port host = .ok port ∧
        (configuration.ownOffer files host port).mapM (OfferedKey.load files) = .error failure := by
    simp [bind_eq_error_iff, pure, Except.pure]
  simp only [identities_eq, bind_eq_error_iff, behind, exists_and_right]

/-- The key in an identity file fails with the file. -/
theorem ownOffer_eq_error_iff (built : build before environment preferences = .ok configuration) :
    (configuration.ownOffer files host port).mapM (OfferedKey.load files) = .error failure ↔
      ∃ path cause, IdentityFileAt configuration files host port path ∧ files.present path = true ∧
        files.read path = .error cause ∧ failure = .unreadableIdentity path cause := by
  have single (key : OfferedKey) :
      [key].mapM (OfferedKey.load files) = .error failure ↔ OfferedKey.Unreadable files key failure := by
    rw [List.mapM_cons, bind_eq_error_iff, OfferedKey.load_eq_error_iff]
    simp [pure, Except.pure, bind, Except.bind]
  simp only [identityFileAt_iff (valued_of_build built), ownOffer]
  constructor
  · intro failed
    split at failed
    · next present =>
      cases (single _).mp failed with
      | file refused => exact ⟨_, _, rfl, present, refused, rfl⟩
    · cases failed
  · rintro ⟨path, cause, rfl, present, refused, rfl⟩
    rw [if_pos present]
    exact (single _).mpr (.file refused)

/-- Which file is the identity file, and whether it exists, is told without reading it. -/
theorem ownOffer_congr {other : FileSystem} (same : other.present = files.present) :
    configuration.ownOffer other host port = configuration.ownOffer files host port := by
  obtain ⟨read, present, opened, entered⟩ := other
  subst same
  rfl

/-- Where the files of the keys on offer are the same, so are the keys, whatever other files are like. -/
theorem identities_congr (built : build before environment preferences = .ok configuration) {other : FileSystem}
    (same : other.present = files.present)
    (read : ∀ path, ReadFor preferences configuration files host path → other.read path = files.read path) :
    configuration.identities other host = configuration.identities files host := by
  have registered : (configuration.heldOffers host).mapM (OfferedKey.load other) =
      (configuration.heldOffers host).mapM (OfferedKey.load files) := by
    refine mapM_congr fun key among => OfferedKey.load_congr fun path origin => read path ?_
    obtain ⟨_, passphrase⟩ := key
    cases origin
    rw [heldOffers_of_build built] at among
    exact .registered among
  rw [identities_eq, identities_eq, registered]
  refine bind_congr_of_ok fun _ _ => bind_congr_of_ok fun port settled => ?_
  have own : (configuration.ownOffer files host port).mapM (OfferedKey.load other) =
      (configuration.ownOffer files host port).mapM (OfferedKey.load files) := by
    refine mapM_congr fun key among => OfferedKey.load_congr fun path origin => read path ?_
    unfold ownOffer at among
    split at among
    · next present =>
      obtain rfl := List.mem_singleton.mp among
      cases origin
      exact .identityFile settled ((identityFileAt_iff (valued_of_build built)).mpr rfl) present
    · cases among
  rw [ownOffer_congr same, own]

end

/-- What a configuration that is built with preferences gives for a host: exactly one list of keys is on offer for a
port; if all of them are had, these are given, each in its place, and if not, the first failure is given. Nothing
changes where the files of other keys do, because they are not read. -/
structure IdentityScope (preferences : List Preference) (configuration : Configuration) (files : FileSystem)
    (host : Text) : Prop where
  offered : ∀ port, ∃! keys, Offered preferences configuration files host port keys
  listed : ∀ keys, configuration.identities files host = .ok keys ↔ ∃ port offered,
    configuration.port host = .ok port ∧ Offered preferences configuration files host port offered ∧
      List.Forall₂ (OfferedKey.Gives files) offered keys
  failed : ∀ failure, configuration.identities files host = .error failure ↔
    IdentityFailure preferences configuration files host failure
  unread : ∀ other : FileSystem, other.present = files.present →
    (∀ path, ReadFor preferences configuration files host path → other.read path = files.read path) →
    configuration.identities other host = configuration.identities files host

/-- Every built configuration offers a host what its registrations and its sources say, whatever the files are like by
then. -/
theorem identities_scoped {before : FileSystem} {environment : Environment} {preferences : List Preference}
    {configuration : Configuration} (built : build before environment preferences = .ok configuration)
    (files : FileSystem) (host : Text) : IdentityScope preferences configuration files host := by
  have held := heldOffers_of_build built host
  refine { offered := fun port => ?_, listed := fun keys => ?_, failed := fun failure => ?_, unread := ?_ }
  · exact ⟨_, (offered_iff built).mpr rfl, fun keys => (offered_iff built).mp⟩
  · rw [identities_eq_ok_iff]
    constructor
    · rintro ⟨port, settled, had⟩
      exact ⟨port, _, settled, (offered_iff built).mpr rfl, OfferedKey.forall₂_gives_iff.mp had⟩
    · rintro ⟨port, offered, settled, all, had⟩
      obtain rfl := (offered_iff built).mp all
      exact ⟨port, settled, OfferedKey.forall₂_gives_iff.mpr had⟩
  · rw [identities_eq_error_iff, OfferedKey.firstUnreadable_iff, OfferedKey.forall_gives_iff, held]
    constructor
    · rintro (refused | ⟨readable, unsettled | ⟨port, settled, failed⟩⟩)
      · exact .registered refused
      · exact .port readable unsettled
      · obtain ⟨path, cause, located, present, refused, rfl⟩ := (ownOffer_eq_error_iff built).mp failed
        exact .identityFile readable settled located present refused
    · intro failed
      cases failed with
      | registered refused => exact .inl refused
      | port readable unsettled => exact .inr ⟨readable, .inl unsettled⟩
      | identityFile readable settled located present refused =>
          refine .inr ⟨readable, .inr ⟨_, settled, ?_⟩⟩
          exact (ownOffer_eq_error_iff built).mpr ⟨_, _, located, present, refused, rfl⟩
  · exact fun other => identities_congr built

/-- Of two registrations one is for the host, by one of its two patterns. The old identity file is missing, and that of
the new name is offered in its place, with a passphrase that is named last. -/
theorem identities_scoped_modern :
    let preferences := settledAt "/h".toList "/w".toList
      [.identityKey [0x6B] (some "s".toList) ["a?".toList, "x".toList], .identityKey [0x6C] none ["b".toList],
        .passphrase "q".toList]
    let files := FileSystem.holding ⟨"/h/.ssh/id_rsa".toList⟩ (.ok [0x72])
    ∃ configuration, build (.holding ⟨"/c".toList⟩ (.ok [])) .bare preferences = .ok configuration ∧
      configuration.identities files "ab".toList =
        .ok [⟨[0x6B], none, some "s".toList⟩, ⟨[0x72], some ⟨"/h/.ssh/id_rsa".toList⟩, some "q".toList⟩] := by
  intro preferences files
  obtain ⟨configuration, built⟩ : ∃ configuration,
      build (.holding ⟨"/c".toList⟩ (.ok [])) .bare preferences = .ok configuration := ⟨_, rfl⟩
  refine ⟨configuration, built, ?_⟩
  have scope := identities_scoped built files "ab".toList
  have settled : configuration.port "ab".toList = .ok 22 := by
    cases built
    rfl
  have located : IdentityFileAt configuration files "ab".toList 22 ⟨"/h/.ssh/id_rsa".toList⟩ := by
    refine (identityFileAt_iff (valued_of_build built)).mpr ?_
    cases built
    rfl
  have registered : registeredOffers preferences configuration "ab".toList = [⟨.inline [0x6B], some "s".toList⟩] := by
    cases built
    rfl
  refine (scope.listed _).mpr ⟨22, _, settled, .withFile located rfl, ?_⟩
  rw [registered]
  exact .cons .inline (.cons (.file rfl) .nil)

end Configuration

end SecureShell
