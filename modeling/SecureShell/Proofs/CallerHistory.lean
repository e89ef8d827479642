/-
Module: SecureShell.Proofs.CallerHistory
Purpose: The preferences of a caller as a history of the source list. Whether a preference can be applied, and what
  it does to the other settings, does not depend on the sources; what it does to the sources is a history that
  depends on the files and the settled directories alone. A build that succeeds is taken apart into its steps.
Main exports: Preference.changes, callerHistory, Settings.apply_onSources, Settings.applyAll_onSources,
  Settings.applyAll_directories, Settings.applyAll_sources, Configuration.Built, Configuration.built_of_build,
  FileSystem.holding, settledAt
-/
import SecureShell.Config.Configuration
import SecureShell.Proofs.SourceHistory

namespace SecureShell

/-- What a preference changes about the sources. Data is a source that is not optional, in the settled directory
under the digest of its content. A file that cannot be read changes nothing, because it ends the build. -/
def Preference.changes (files : FileSystem) (directory home : Path) : Preference → SourceHistory
  | .unshiftData content =>
      [.unshift ⟨directory.join (Hex.encode (Digest.Sha256.digest content)), content, false⟩]
  | .appendData content =>
      [.append ⟨directory.join (Hex.encode (Digest.Sha256.digest content)), content, false⟩]
  | .unshiftFile written => (Source.ofFile files written directory home).toOption.toList.map .unshift
  | .appendFile written => (Source.ofFile files written directory home).toOption.toList.map .append
  | .clearSources => [.clear]
  | _ => []

/-- What the preferences of a caller change about the sources, in order. -/
def callerHistory (files : FileSystem) (directory home : Path) (preferences : List Preference) :
    SourceHistory :=
  preferences.flatMap (Preference.changes files directory home)

theorem callerHistory_cons (files : FileSystem) (directory home : Path) (preference : Preference)
    (rest : List Preference) :
    callerHistory files directory home (preference :: rest) =
      preference.changes files directory home ++ callerHistory files directory home rest :=
  List.flatMap_cons

namespace Settings

variable {files : FileSystem}

/-- The settings with other sources. -/
abbrev onSources (settings : Settings) (list : SourceList) : Settings :=
  settings.withSources fun _ => list

theorem withFile_onSources (settings : Settings) (list : SourceList) (written : Text)
    (place : SourceList → Source → SourceList) (change : Source → SourceChange)
    (places : ∀ list source, place list source = SourceList.change list (change source)) :
    (settings.onSources list).withFile files written place =
      (settings.withFile files written place).map fun changed =>
        changed.onSources (list.after
          ((Source.ofFile files written settings.directory settings.home).toOption.toList.map change)) := by
  simp only [withFile, onSources, withSources]
  cases Source.ofFile files written settings.directory settings.home with
  | error failure => rfl
  | ok source => simp [Except.map, Except.toOption, places, SourceList.after_cons]

/-- A preference treats the sources as its changes say, and does everything else alike whatever they are. -/
theorem apply_onSources (settings : Settings) (list : SourceList) (preference : Preference) :
    (settings.onSources list).apply files preference =
      (settings.apply files preference).map fun changed =>
        changed.onSources (list.after (preference.changes files settings.directory settings.home)) := by
  cases preference with
  | unshiftFile written => exact withFile_onSources settings list written _ .unshift fun _ _ => rfl
  | appendFile written => exact withFile_onSources settings list written _ .append fun _ _ => rfl
  | port port =>
      simp only [apply]
      split <;> rfl
  | _ => rfl

/-- No preference changes the directories, which are settled before. -/
theorem apply_directories {settings changed : Settings} {preference : Preference}
    (applied : settings.apply files preference = .ok changed) :
    changed.directory = settings.directory ∧ changed.home = settings.home := by
  have placed : ∀ written change, settings.withFile files written change = .ok changed →
      changed.directory = settings.directory ∧ changed.home = settings.home := by
    intro written change applied
    unfold withFile at applied
    split at applied
    · cases applied
    · cases applied
      exact ⟨rfl, rfl⟩
  cases preference with
  | unshiftFile written => exact placed _ _ applied
  | appendFile written => exact placed _ _ applied
  | port port =>
      simp only [apply] at applied
      split at applied
      · cases applied
      · cases applied
        exact ⟨rfl, rfl⟩
  | _ =>
      cases applied
      exact ⟨rfl, rfl⟩

/-- The preferences of a caller treat the sources as their history says, and do everything else alike whatever
the sources are. -/
theorem applyAll_onSources (settings : Settings) (list : SourceList) (preferences : List Preference) :
    (settings.onSources list).applyAll files preferences =
      (settings.applyAll files preferences).map fun final =>
        final.onSources
          (list.after (callerHistory files settings.directory settings.home preferences)) := by
  induction preferences generalizing settings list with
  | nil => rfl
  | cons preference rest ih =>
      rw [applyAll, applyAll, apply_onSources]
      cases applied : settings.apply files preference with
      | error failure => rfl
      | ok changed =>
          -- the rest of the history is made in the same directories, which a preference leaves alone
          obtain ⟨directory, home⟩ := apply_directories applied
          rw [callerHistory_cons, SourceList.after_append, ← directory, ← home]
          exact ih changed _

theorem applyAll_directories {settings final : Settings} {preferences : List Preference}
    (applied : settings.applyAll files preferences = .ok final) :
    final.directory = settings.directory ∧ final.home = settings.home := by
  induction preferences generalizing settings with
  | nil =>
      cases applied
      exact ⟨rfl, rfl⟩
  | cons preference rest ih =>
      unfold applyAll at applied
      split at applied
      · cases applied
      · next changed first =>
        obtain ⟨directory, home⟩ := apply_directories first
        rw [← directory, ← home]
        exact ih applied

/-- The sources of applied preferences have the history of the preferences behind that of the sources before. -/
theorem applyAll_sources {settings final : Settings} {preferences : List Preference}
    (applied : settings.applyAll files preferences = .ok final) :
    final.sources =
      settings.sources.after (callerHistory files settings.directory settings.home preferences) := by
  have own : settings.onSources settings.sources = settings := rfl
  have again := applied
  rw [← own, applyAll_onSources, applied] at again
  exact (congrArg Settings.sources (Except.ok.inj again)).symm

end Settings

namespace Configuration

/-- What a configuration is built from: the settled directories, the default files that are found, the sources that
the history of all changes comes to, and the store of these. -/
structure Built (files : FileSystem) (environment : Environment) (preferences : List Preference)
    (configuration : Configuration) (found : List Source) : Prop where
  home : settledHome environment preferences = .ok configuration.settings.home
  directory : settledDirectory environment preferences = .ok configuration.settings.directory
  defaults : SourceList.foundDefaults files configuration.settings.directory configuration.settings.home
    = .ok found
  sources : configuration.settings.sources.sources = told (found.map .append
    ++ callerHistory files configuration.settings.directory configuration.settings.home preferences)
  store : configuration.settings.sources.load files configuration.settings.home = .ok configuration.store

/-- A composed computation that gives a value consists of two parts that give values. -/
theorem ok_of_bind {ε α β : Type} {first : Except ε α} {next : α → Except ε β} {result : β}
    (ended : (first >>= next) = .ok result) : ∃ value, first = .ok value ∧ next value = .ok result := by
  cases first with
  | error failure => cases ended
  | ok value => exact ⟨value, rfl, ended⟩

/-- A composed computation goes on from the value of its first part. -/
theorem bind_of_ok {ε α β : Type} {first : Except ε α} {next : α → Except ε β} {value : α} {result : Except ε β}
    (had : first = .ok value) (ended : next value = result) : first >>= next = result := by
  rw [had]
  exact ended

/-- A composed computation fails as its first part, or as the second behind it. -/
theorem bind_eq_error_iff {ε α β : Type} {first : Except ε α} {next : α → Except ε β} {failure : ε} :
    (first >>= next) = .error failure ↔
      first = .error failure ∨ ∃ value, first = .ok value ∧ next value = .error failure := by
  cases first with
  | error other =>
      constructor
      · rintro ⟨⟩
        exact .inl rfl
      · rintro (⟨⟨⟩⟩ | ⟨value, ⟨⟩, -⟩)
        rfl
  | ok value =>
      constructor
      · intro failed
        exact .inr ⟨value, rfl, failed⟩
      · rintro (⟨⟨⟩⟩ | ⟨other, ⟨⟩, failed⟩)
        exact failed

/-- Composed computations that go on alike from the value of the first part are alike. -/
theorem bind_congr_of_ok {ε α β : Type} {first : Except ε α} {next other : α → Except ε β}
    (same : ∀ value, first = .ok value → next value = other value) : first >>= next = first >>= other := by
  cases first with
  | error failure => rfl
  | ok value => exact same value rfl

/-- A build that succeeds has taken all its steps. -/
theorem built_of_build {files : FileSystem} {environment : Environment} {preferences : List Preference}
    {configuration : Configuration} (built : build files environment preferences = .ok configuration) :
    ∃ found, Built files environment preferences configuration found := by
  obtain ⟨home, homeSettled, built⟩ := ok_of_bind built
  obtain ⟨directory, directorySettled, built⟩ := ok_of_bind built
  obtain ⟨list, defaults, built⟩ := ok_of_bind built
  obtain ⟨settings, applied, built⟩ := ok_of_bind built
  unfold load at built
  split at built
  · cases built
  · next store loaded =>
    cases built
    obtain ⟨sameDirectory, sameHome⟩ := Settings.applyAll_directories applied
    have sources := Settings.applyAll_sources applied
    rw [SourceList.defaults_eq] at defaults
    cases looked : SourceList.foundDefaults files directory home with
    | error failure => simp [looked, Except.map] at defaults
    | ok found =>
        rw [looked] at defaults
        cases defaults
        refine ⟨found, ?_, ?_, ?_, ?_, loaded⟩
        · rw [homeSettled, sameHome]; rfl
        · rw [directorySettled, sameDirectory]; rfl
        · rw [sameHome, sameDirectory]; exact looked
        · rw [sources, sameHome, sameDirectory]
          simp only [Settings.initial, ← SourceList.after_append, (SourceList.after_told _).2]

end Configuration

/-! ### The smallest surroundings of a build -/

/-- A file system in which one name is taken, and reading it answers as given. -/
def FileSystem.holding (path : Path) (answer : Except SystemError Bytes) : FileSystem where
  read asked := if asked = path then answer else .error .notFound
  present asked := asked = path
  opened asked := if asked = path then .ok () else .error .notFound
  entered asked := .ok asked

/-- A process that is told nothing about its user. -/
def Environment.bare : Environment where
  home := none
  agentSocket := none
  accountHome := none
  directory := .error .notFound

/-- The preferences that settle the directories, in front of others. -/
def settledAt (home directory : Text) (others : List Preference) : List Preference :=
  .homeDirectory ⟨home⟩ :: .currentDirectory ⟨directory⟩ :: others

end SecureShell
