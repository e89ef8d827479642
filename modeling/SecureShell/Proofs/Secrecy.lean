/-
Module: SecureShell.Proofs.Secrecy
Purpose: What a summary shows does not depend on secrets. Passwords, passphrases and keys that are handed over can
  be blanked before the preferences are applied or after: blanking goes through every step from the preferences to
  a destination, and a summary is that of the blanked value. Two callers whose preferences are the same once blanked
  see the same failures and the same summaries.
Main exports: Preference.blanked, Settings.blanked, Configuration.blanked, KeyMaterial.blanked,
  Destination.blanked, Configuration.build_blanked, Configuration.destination_blanked, Configuration.shown,
  Configuration.build_shown
-/
import SecureShell.Config.Resolution
import SecureShell.Proofs.PreferenceOrder

namespace SecureShell

/-! ### Blanking -/

/-- A secret that is there, with nothing in it. -/
def blankSecret (secret : Option Text) : Option Text :=
  secret.map fun _ => []

theorem blankSecret_blankSecret (secret : Option Text) : blankSecret (blankSecret secret) = blankSecret secret := by
  cases secret <;> rfl

/-- A preference without its secrets. Whether there is a passphrase remains. -/
def Preference.blanked : Preference → Preference
  | .identityFile written secret patterns => .identityFile written (blankSecret secret) patterns
  | .identityKey _ secret patterns => .identityKey [] (blankSecret secret) patterns
  | .passphrase _ => .passphrase []
  | .password _ => .password []
  | other => other

/-- The place of a key without the key itself. -/
def IdentityOrigin.blanked : IdentityOrigin → IdentityOrigin
  | .inline _ => .inline []
  | .file path => .file path

/-- A registered identity without its secrets. -/
def Identity.blanked (identity : Identity) : Identity where
  pattern := identity.pattern
  origin := identity.origin.blanked
  passphrase := blankSecret identity.passphrase

/-- Settings without their secrets. -/
def Settings.blanked (settings : Settings) : Settings :=
  { settings with
    identities := settings.identities.map Identity.blanked
    passphrase := blankSecret settings.passphrase
    password := blankSecret settings.password }

/-- A configuration without its secrets. -/
def Configuration.blanked (configuration : Configuration) : Configuration where
  settings := configuration.settings.blanked
  store := configuration.store

/-- Key material without the key and its passphrase. -/
def KeyMaterial.blanked (key : KeyMaterial) : KeyMaterial where
  content := []
  path := key.path
  passphrase := blankSecret key.passphrase

/-- A destination without its secrets. -/
def Destination.blanked (destination : Destination) : Destination :=
  { destination with
    keys := destination.keys.map KeyMaterial.blanked
    password := blankSecret destination.password }

/-! ### Summaries show nothing that is blanked -/

theorem optional_blankSecret (secret : Option Text) (shown : Text) :
    (blankSecret secret).map (fun _ => shown) = secret.map fun _ => shown := by
  cases secret <;> rfl

theorem KeyMaterial.summary_blanked (key : KeyMaterial) : key.blanked.summary = key.summary := by
  simp only [summary, blanked, optional_blankSecret]

theorem Destination.summary_blanked (destination : Destination) :
    destination.blanked.summary = destination.summary := by
  have keys : (destination.keys.map KeyMaterial.blanked).map KeyMaterial.summary =
      destination.keys.map KeyMaterial.summary := by
    simp only [List.map_map, Function.comp_def, KeyMaterial.summary_blanked]
  simp only [summary, blanked, optional_blankSecret, keys]

theorem Configuration.summary_blanked (configuration : Configuration) :
    configuration.blanked.summary = configuration.summary := by
  simp only [summary, blanked, Settings.blanked, sourcePaths, List.length_map]

/-! ### Blanking goes through a build -/

theorem Identity.registered_blanked (origin : IdentityOrigin) (passphrase : Option Text) (patterns : List Text) :
    registered origin.blanked (blankSecret passphrase) patterns =
      (registered origin passphrase patterns).map Identity.blanked := by
  simp only [registered, List.map_map, Function.comp_def, blanked]

namespace Settings

variable {files : FileSystem}

theorem withIdentities_blanked (settings : Settings) (identities : List Identity) :
    settings.blanked.withIdentities (identities.map Identity.blanked) =
      (settings.withIdentities identities).blanked := by
  simp only [withIdentities, blanked, List.map_append]

theorem withFile_blanked (settings : Settings) (written : Text) (change : SourceList → Source → SourceList) :
    settings.blanked.withFile files written change =
      (settings.withFile files written change).map Settings.blanked := by
  have read : Source.ofFile files written settings.blanked.directory settings.blanked.home =
      Source.ofFile files written settings.directory settings.home := rfl
  rw [withFile, withFile, read]
  cases Source.ofFile files written settings.directory settings.home <;> rfl

/-- A blanked preference does to blanked settings what the preference does to the settings. -/
theorem apply_blanked (settings : Settings) (preference : Preference) :
    settings.blanked.apply files preference.blanked = (settings.apply files preference).map Settings.blanked := by
  cases preference with
  | identityFile written passphrase patterns =>
      have same := Identity.registered_blanked (.file (settings.place written)) passphrase patterns
      exact congrArg Except.ok ((congrArg settings.blanked.withIdentities same).trans
        (withIdentities_blanked settings _))
  | identityKey content passphrase patterns =>
      have same := Identity.registered_blanked (.inline content) passphrase patterns
      exact congrArg Except.ok ((congrArg settings.blanked.withIdentities same).trans
        (withIdentities_blanked settings _))
  | unshiftFile written => exact withFile_blanked settings written _
  | appendFile written => exact withFile_blanked settings written _
  | port number =>
      simp only [apply, Preference.blanked]
      split <;> rfl
  | _ => rfl

theorem applyAll_blanked (settings : Settings) (preferences : List Preference) :
    settings.blanked.applyAll files (preferences.map Preference.blanked) =
      (settings.applyAll files preferences).map Settings.blanked := by
  induction preferences generalizing settings with
  | nil => rfl
  | cons preference rest ih =>
      rw [List.map_cons, applyAll, applyAll, apply_blanked]
      cases settings.apply files preference with
      | error failure => rfl
      | ok changed => exact ih changed

end Settings

namespace Configuration

variable {files : FileSystem} {environment : Environment}

/-- Settings have no secrets when a build begins, and the same directories are named. -/
theorem start_blanked (files : FileSystem) (environment : Environment) (preferences : List Preference) :
    start files environment (preferences.map Preference.blanked) =
      (start files environment preferences).map Settings.blanked := by
  have fresh : ∀ settings, start files environment preferences = .ok settings → settings.blanked = settings := by
    intro settings started
    obtain ⟨home, -, started⟩ := ok_of_bind started
    obtain ⟨directory, -, started⟩ := ok_of_bind started
    obtain ⟨sources, -, started⟩ := ok_of_bind started
    cases started
    rfl
  have same : start files environment (preferences.map Preference.blanked) = start files environment preferences := by
    apply start_congr <;> rw [List.filterMap_map] <;> congr 1 <;> funext preference <;> cases preference <;> rfl
  rw [same]
  cases started : start files environment preferences with
  | error failure => rfl
  | ok settings => exact congrArg Except.ok (fresh settings started).symm

theorem load_blanked (settings : Settings) :
    load files settings.blanked = (load files settings).map Configuration.blanked := by
  have read : settings.blanked.sources.load files settings.blanked.home =
      settings.sources.load files settings.home := rfl
  rw [load, load, read]
  cases settings.sources.load files settings.home <;> rfl

/-- A build from blanked preferences ends as the build from the preferences does, with the blanked configuration. -/
theorem build_blanked (files : FileSystem) (environment : Environment) (preferences : List Preference) :
    build files environment (preferences.map Preference.blanked) =
      (build files environment preferences).map Configuration.blanked := by
  rw [build_eq_buildEnding, build_eq_buildEnding, buildEnding, buildEnding, start_blanked]
  cases start files environment preferences with
  | error failure => rfl
  | ok settings =>
      show settings.blanked.applyAll files (preferences.map Preference.blanked) >>= load files =
        (settings.applyAll files preferences >>= load files).map Configuration.blanked
      rw [Settings.applyAll_blanked]
      cases settings.applyAll files preferences with
      | error failure => rfl
      | ok changed => exact load_blanked changed

/-! ### Blanking goes through the questions about a host -/

/-- Two composed computations look alike when their first parts do, and whatever follows on values that look alike. -/
theorem bind_alike {ε α β γ δ : Type} {first second : Except ε α} {next other : α → Except ε β} {view : α → γ}
    {outlook : β → δ} (alike : first.map view = second.map view)
    (onward : ∀ left right, view left = view right → (next left).map outlook = (other right).map outlook) :
    (first >>= next).map outlook = (second >>= other).map outlook := by
  cases first with
  | error failure =>
      cases second with
      | error other => exact congrArg Except.error (Except.error.inj alike)
      | ok right => cases alike
  | ok left =>
      cases second with
      | error other => cases alike
      | ok right => exact onward left right (Except.ok.inj alike)

theorem identityKey_blanked (files : FileSystem) (identity : Identity) :
    (identityKey files identity.blanked).map KeyMaterial.blanked =
      (identityKey files identity).map KeyMaterial.blanked := by
  obtain ⟨pattern, origin, passphrase⟩ := identity
  cases origin with
  | inline content =>
      simp only [identityKey, Identity.blanked, IdentityOrigin.blanked, Except.map, KeyMaterial.blanked,
        blankSecret_blankSecret]
  | file path =>
      simp only [identityKey, Identity.blanked, IdentityOrigin.blanked]
      cases readKey files path with
      | error failure => rfl
      | ok content =>
          simp only [bind, Except.bind, pure, Except.pure, Except.map, KeyMaterial.blanked, blankSecret_blankSecret]

theorem identityKeys_blanked (files : FileSystem) (identities : List Identity) :
    (identityKeys files (identities.map Identity.blanked)).map (List.map KeyMaterial.blanked) =
      (identityKeys files identities).map (List.map KeyMaterial.blanked) := by
  induction identities with
  | nil => rfl
  | cons identity rest ih =>
      refine bind_alike (identityKey_blanked files identity) fun key other sameKey => ?_
      refine bind_alike ih fun keys others sameKeys => ?_
      simp only [pure, Except.pure, Except.map, List.map_cons, sameKey, sameKeys]

/-- The identities for a host are chosen without looking at their secrets. -/
theorem filter_isFor_blanked (identities : List Identity) (host : Text) :
    (identities.map Identity.blanked).filter (·.isFor host) =
      (identities.filter (·.isFor host)).map Identity.blanked :=
  List.filter_map

theorem identities_blanked (configuration : Configuration) (files : FileSystem) (host : Text) :
    (configuration.blanked.identities files host).map (List.map KeyMaterial.blanked) =
      (configuration.identities files host).map (List.map KeyMaterial.blanked) := by
  have chosen : configuration.blanked.settings.identities.filter (·.isFor host) =
      (configuration.settings.identities.filter (·.isFor host)).map Identity.blanked :=
    filter_isFor_blanked _ host
  have named : configuration.blanked.identityFile files host = configuration.identityFile files host := rfl
  simp only [identities, chosen, named]
  refine bind_alike (identityKeys_blanked files _) fun keys others sameKeys => ?_
  cases configuration.identityFile files host with
  | error failure => rfl
  | ok named =>
      cases named with
      | none => exact congrArg Except.ok sameKeys
      | some path =>
          simp only [bind, Except.bind]
          cases readKey files path with
          | error failure => rfl
          | ok content =>
              simp only [pure, Except.pure, Except.map, List.map_append, List.map_cons, List.map_nil, sameKeys,
                KeyMaterial.blanked, blanked, Settings.blanked, blankSecret_blankSecret]

/-- A destination from a blanked configuration is the destination from the configuration but for the secrets. -/
theorem destination_blanked (configuration : Configuration) (files : FileSystem) (host : Text) :
    (configuration.blanked.destination files host).map Destination.blanked =
      (configuration.destination files host).map Destination.blanked := by
  have port : configuration.blanked.port host = configuration.port host := rfl
  simp only [destination, port]
  cases configuration.port host with
  | error failure => rfl
  | ok number =>
      show (configuration.blanked.identities files host >>= _).map _ =
        (configuration.identities files host >>= _).map _
      refine bind_alike (identities_blanked configuration files host) fun keys others sameKeys => ?_
      simp only [pure, Except.pure, Except.map, Destination.blanked, sameKeys]
      simp only [blanked, Settings.blanked, blankSecret_blankSecret]
      rfl

/-- What can be seen of a configuration: its summary, and for every host the summary of the destination, or why there
is none, when the files are as given. -/
structure Appearance where
  summary : Text
  destination : FileSystem → Text → Except ConfigFailure Text

/-- What a configuration shows. -/
def shown (configuration : Configuration) : Appearance where
  summary := configuration.summary
  destination files host := (configuration.destination files host).map Destination.summary

theorem map_summary_blanked (destination : Except ConfigFailure Destination) :
    (destination.map Destination.blanked).map Destination.summary = destination.map Destination.summary := by
  cases destination with
  | error failure => rfl
  | ok found => exact congrArg Except.ok found.summary_blanked

/-- A blanked configuration shows what the configuration shows. -/
theorem shown_blanked (configuration : Configuration) : configuration.blanked.shown = configuration.shown := by
  have destination : ∀ files host, (configuration.blanked.destination files host).map Destination.summary =
      (configuration.destination files host).map Destination.summary := by
    intro files host
    rw [← map_summary_blanked, destination_blanked, map_summary_blanked]
  simp only [shown, summary_blanked, destination]

/-- Secrets do not reach a summary. Callers whose preferences are the same once the secrets are blanked get the same
failure or configurations that show the same: the summary of the configuration and, for every host, the failure or
the summary of the destination. -/
theorem build_shown (files : FileSystem) (environment : Environment) (first second : List Preference)
    (alike : first.map Preference.blanked = second.map Preference.blanked) :
    (build files environment first).map shown = (build files environment second).map shown := by
  have unblanked : ∀ preferences, (build files environment preferences).map shown =
      (build files environment (preferences.map Preference.blanked)).map shown := by
    intro preferences
    rw [build_blanked]
    cases build files environment preferences with
    | error failure => rfl
    | ok configuration => exact congrArg Except.ok configuration.shown_blanked.symm
  rw [unblanked first, alike, ← unblanked second]

/-- Two callers with different passwords, keys and passphrases. -/
theorem build_shown_passwords :
    let files := FileSystem.holding ⟨"/h/key".toList⟩ (.ok [0x6B])
    let caller (password passphrase : Text) (key : Bytes) : List Preference :=
      settledAt "/h".toList "/w".toList [.password password, .identityFile "~/key".toList (some passphrase) [],
        .identityKey key none ["db*".toList]]
    let first := caller "one".toList "two".toList [0x33]
    let second := caller "four".toList "".toList []
    first ≠ second ∧ (build files .bare first).isOk = true ∧
      (build files .bare first).map shown = (build files .bare second).map shown := by
  intro files caller first second
  exact ⟨by decide, by decide, build_shown files .bare first second rfl⟩

end Configuration

end SecureShell
