/-
Module: SecureShell.Proofs.PreferenceOrder
Purpose: What the preferences of a caller add up to, subject by subject. Every preference says something about one
  subject; the settings hold what has been said about each, and a preference that cannot be applied is refused for
  a reason that no other preference changes. Hence the order of preferences counts only within a subject, the
  first refused preference is the failure of a build before any source is read, and the directories govern every
  preference wherever they are named.
Main exports: Subject, Preference.subject, Preference.content, Preference.refusal?, said, Settings.sum,
  Settings.applyAll_eq, SameBySubject, FirstRefusal, Configuration.buildEnding, Configuration.build_order
-/
import SecureShell.Proofs.CallerHistory

namespace SecureShell

/-! ### Subjects -/

/-- What a preference is about. -/
inductive Subject where
  | user
  | port
  | hostname
  | identities
  | passphrase
  | sources
  | useAgent
  | agentSocket
  | knownHosts
  | password
  | callerMethods
  | dialer
  | connectLimit
  | proxyLimit
  | prompting
  | home
  | directory
deriving DecidableEq, Repr

/-- What can be said about a subject. -/
abbrev Subject.Content : Subject → Type
  | .user => Text
  | .port => Port
  | .hostname => Text
  | .identities => List Identity
  | .passphrase => Text
  | .sources => SourceHistory
  | .useAgent => Bool
  | .agentSocket => Path
  | .knownHosts => List Path
  | .password => Text
  | .callerMethods => CallerMethod
  | .dialer => CustomDialer
  | .connectLimit => Span
  | .proxyLimit => Span
  | .prompting => Bool
  | .home => Path
  | .directory => Path

namespace Preference

/-- The subject of a preference. -/
def subject : Preference → Subject
  | .user _ => .user
  | .port _ => .port
  | .hostname _ => .hostname
  | .identityFile _ _ _ => .identities
  | .identityKey _ _ _ => .identities
  | .passphrase _ => .passphrase
  | .unshiftData _ => .sources
  | .appendData _ => .sources
  | .unshiftFile _ => .sources
  | .appendFile _ => .sources
  | .clearSources => .sources
  | .useAgent _ => .useAgent
  | .agentSocket _ => .agentSocket
  | .knownHosts _ => .knownHosts
  | .password _ => .password
  | .callerMethod _ => .callerMethods
  | .customDialer _ => .dialer
  | .connectLimit _ => .connectLimit
  | .proxyLimit _ => .proxyLimit
  | .promptPassphrase _ => .prompting
  | .homeDirectory _ => .home
  | .currentDirectory _ => .directory

/-- What a preference says about its subject, its paths read from settled directories. -/
def content (files : FileSystem) (directory home : Path) :
    (preference : Preference) → preference.subject.Content
  | .user name => name
  | .port number => number
  | .hostname name => name
  | .identityFile written secret patterns =>
      Identity.registered (.file (Path.expand written directory home)) secret patterns
  | .identityKey material secret patterns => Identity.registered (.inline material) secret patterns
  | .passphrase text => text
  | .unshiftData data => changes files directory home (.unshiftData data)
  | .appendData data => changes files directory home (.appendData data)
  | .unshiftFile written => changes files directory home (.unshiftFile written)
  | .appendFile written => changes files directory home (.appendFile written)
  | .clearSources => changes files directory home .clearSources
  | .useAgent wanted => wanted
  | .agentSocket path => path
  | .knownHosts written => written.map (Path.expand · directory home)
  | .password text => text
  | .callerMethod method => method
  | .customDialer dialer => dialer
  | .connectLimit span => span
  | .proxyLimit span => span
  | .promptPassphrase wanted => wanted
  | .homeDirectory path => path
  | .currentDirectory path => path

/-- Why a preference cannot be applied in settled directories. -/
def refusal? (files : FileSystem) (directory home : Path) : Preference → Option ConfigFailure
  | .port number => if number = 0 then some (.invalidPort "*".toList "0".toList) else none
  | .unshiftFile written => unreadable written
  | .appendFile written => unreadable written
  | _ => none
where
  /-- Why a file cannot become a source. -/
  unreadable (written : Text) : Option ConfigFailure :=
    match Source.ofFile files written directory home with
    | .error failure => some failure
    | .ok _ => none

/-- The home directory that a preference names. -/
def home? : Preference → Option Path
  | .homeDirectory path => some path
  | _ => none

/-- The working directory that a preference names. -/
def directory? : Preference → Option Path
  | .currentDirectory path => some path
  | _ => none

/-- Whether a preference names a directory from which paths are read. -/
def namesDirectory (preference : Preference) : Bool :=
  preference.subject = .home ∨ preference.subject = .directory

/-- Naming a directory is never refused. -/
theorem refusal?_of_namesDirectory {files : FileSystem} {directory home : Path} {preference : Preference}
    (names : preference.namesDirectory = true) : preference.refusal? files directory home = none := by
  cases preference <;> first | rfl | simp [namesDirectory, subject] at names

end Preference

/-- What preferences say about a subject, in order. -/
def said (files : FileSystem) (directory home : Path) (subject : Subject) (preferences : List Preference) :
    List subject.Content :=
  preferences.filterMap fun preference =>
    if same : preference.subject = subject then some (same ▸ preference.content files directory home) else none

theorem said_append (files : FileSystem) (directory home : Path) (subject : Subject)
    (front back : List Preference) :
    said files directory home subject (front ++ back) =
      said files directory home subject front ++ said files directory home subject back :=
  List.filterMap_append

/-- A preference says something about its own subject only. -/
theorem said_own (files : FileSystem) (directory home : Path) (preference : Preference) :
    said files directory home preference.subject [preference] = [preference.content files directory home] := by
  simp [said]

theorem said_other (files : FileSystem) (directory home : Path) {preference : Preference} {subject : Subject}
    (other : preference.subject ≠ subject) : said files directory home subject [preference] = [] := by
  simp [said, other]

/-- What a preference says is among what is said about its subject. -/
theorem content_mem_said {preference : Preference} {preferences : List Preference}
    (member : preference ∈ preferences) (files : FileSystem) (directory home : Path) :
    preference.content files directory home ∈ said files directory home preference.subject preferences :=
  List.mem_filterMap.mpr ⟨preference, member, by simp⟩

/-! ### Adding up -/

namespace Settings

variable (settings : Settings) (files : FileSystem)

/-- The settings with everything that preferences say, none of them refused: the sources change as they are told
to, registrations and methods are collected, and of what is said about any other subject the latest holds. -/
def sum (preferences : List Preference) : Settings where
  sources := settings.sources.after (about .sources).flatten
  overrides :=
    { user := (about .user).getLast?.or settings.overrides.user
      port := (about .port).getLast?.or settings.overrides.port
      hostname := (about .hostname).getLast?.or settings.overrides.hostname }
  identities := settings.identities ++ (about .identities).flatten
  passphrase := (about .passphrase).getLast?.or settings.passphrase
  useAgent := (about .useAgent).getLast?.getD settings.useAgent
  agentSocket := (about .agentSocket).getLast?.or settings.agentSocket
  knownHosts := (about .knownHosts).getLast?.getD settings.knownHosts
  password := (about .password).getLast?.or settings.password
  callerMethods := settings.callerMethods ++ about .callerMethods
  customDialer := (about .dialer).getLast?.or settings.customDialer
  connectLimit := (about .connectLimit).getLast?.getD settings.connectLimit
  proxyLimit := (about .proxyLimit).getLast?.getD settings.proxyLimit
  promptPassphrase := (about .prompting).getLast?.getD settings.promptPassphrase
  home := settings.home
  directory := settings.directory
where
  /-- What the preferences say about a subject in the directories of the settings. -/
  about (subject : Subject) : List subject.Content :=
    said files settings.directory settings.home subject preferences

theorem sum_nil : settings.sum files [] = settings := by
  simp [sum, sum.about, said]

/-- Preferences add up piece by piece. -/
theorem sum_append (front back : List Preference) :
    settings.sum files (front ++ back) = (settings.sum files front).sum files back := by
  simp [sum, sum.about, said_append, SourceList.after_append, Option.or_assoc, Option.getD_or]

/-- A preference is refused, or adds what it says. -/
theorem apply_eq (preference : Preference) :
    settings.apply files preference =
      match preference.refusal? files settings.directory settings.home with
      | some failure => .error failure
      | none => .ok (settings.sum files [preference]) := by
  have own := said_own files settings.directory settings.home preference
  have other := @said_other files settings.directory settings.home preference
  cases preference with
  | port number =>
      by_cases zero : number = 0
      · simp only [apply, Preference.refusal?, zero, if_true]
      · simp only [Preference.subject] at own other
        simp [apply, Preference.refusal?, zero, sum, sum.about, own, other, Preference.content]
  | unshiftFile written | appendFile written =>
      simp only [Preference.subject] at own other
      cases read : Source.ofFile files written settings.directory settings.home <;>
        simp [apply, withFile, withSources, Preference.refusal?, Preference.refusal?.unreadable, read, sum,
          sum.about, own, other, Preference.content, Preference.changes, Except.toOption, SourceList.after_cons,
          SourceList.change]
  | _ =>
      simp only [Preference.subject] at own other
      simp [apply, withSources, withData, withIdentities, place, Preference.refusal?, sum, sum.about, own, other,
        Preference.content, Preference.changes, Source.ofData, SourceList.after_cons, SourceList.change]

/-- Preferences end in the failure of the first one refused, or add up. -/
theorem applyAll_eq (preferences : List Preference) :
    settings.applyAll files preferences =
      match preferences.findSome? (Preference.refusal? files settings.directory settings.home) with
      | some failure => .error failure
      | none => .ok (settings.sum files preferences) := by
  induction preferences generalizing settings with
  | nil => simp [applyAll, sum_nil]
  | cons preference rest ih =>
      rw [applyAll, apply_eq, List.findSome?_cons]
      cases preference.refusal? files settings.directory settings.home with
      | some failure => rfl
      | none => exact (ih _).trans (by rw [← sum_append]; rfl)

end Settings

/-! ### Order -/

/-- Two lists hold the same preferences about each subject in the same order. -/
def SameBySubject (first second : List Preference) : Prop :=
  ∀ subject : Subject, first.filter (·.subject = subject) = second.filter (·.subject = subject)

namespace SameBySubject

variable {first second : List Preference}

/-- A view of the preferences with one subject does not depend on the others. -/
theorem filterMap_eq {α : Type} (same : SameBySubject first second) (subject : Subject)
    {view : Preference → Option α} (silent : ∀ preference, preference.subject ≠ subject → view preference = none) :
    first.filterMap view = second.filterMap view := by
  have own : ∀ preferences : List Preference,
      (preferences.filter (·.subject = subject)).filterMap view = preferences.filterMap view := by
    intro preferences
    rw [List.filterMap_filter]
    congr 1
    funext preference
    by_cases about : preference.subject = subject
    · simp [about]
    · simp [about, silent preference about]
  rw [← own, same, own]

theorem said_eq (same : SameBySubject first second) (files : FileSystem) (directory home : Path)
    (subject : Subject) :
    said files directory home subject first = said files directory home subject second :=
  same.filterMap_eq subject fun _ other => dif_neg other

/-- What preferences add up to depends on their order within each subject only. -/
theorem sum_eq (same : SameBySubject first second) (settings : Settings) (files : FileSystem) :
    settings.sum files first = settings.sum files second := by
  simp only [Settings.sum, Settings.sum.about, same.said_eq]

theorem mem_iff (same : SameBySubject first second) {preference : Preference} :
    preference ∈ first ↔ preference ∈ second := by
  have own : preference ∈ first.filter (·.subject = preference.subject) ↔
      preference ∈ second.filter (·.subject = preference.subject) := by
    rw [same]
  simpa using own

/-- Whether some preference is refused does not depend on their order. -/
theorem refused_iff (same : SameBySubject first second) (files : FileSystem) (directory home : Path) :
    first.findSome? (Preference.refusal? files directory home) = none ↔
      second.findSome? (Preference.refusal? files directory home) = none := by
  simp only [List.findSome?_eq_none_iff, same.mem_iff]

theorem applyAll_eq (same : SameBySubject first second) (settings : Settings) (files : FileSystem) :
    (settings.applyAll files first).toOption = (settings.applyAll files second).toOption := by
  have refused := same.refused_iff files settings.directory settings.home
  simp only [Settings.applyAll_eq, same.sum_eq]
  cases firstRefusal : first.findSome? (Preference.refusal? files settings.directory settings.home) with
  | none => rw [refused.mp firstRefusal]
  | some failure =>
      cases secondRefusal : second.findSome? (Preference.refusal? files settings.directory settings.home) with
      | none => simp [refused.mpr secondRefusal] at firstRefusal
      | some other => rfl

end SameBySubject

/-- A preference is refused with a failure, and none before it is refused. -/
def FirstRefusal (files : FileSystem) (directory home : Path) (preferences : List Preference)
    (failure : ConfigFailure) : Prop :=
  ∃ before refused after, preferences = before ++ refused :: after ∧
    (∀ earlier ∈ before, earlier.refusal? files directory home = none) ∧
    refused.refusal? files directory home = some failure

theorem firstRefusal_iff (files : FileSystem) (directory home : Path) (preferences : List Preference)
    (failure : ConfigFailure) :
    FirstRefusal files directory home preferences failure ↔
      preferences.findSome? (Preference.refusal? files directory home) = some failure := by
  simp only [FirstRefusal, List.findSome?_eq_some_iff, and_comm]

/-- Applying preferences fails as the first refused one does. -/
theorem Settings.applyAll_eq_error_iff (settings : Settings) (files : FileSystem) (preferences : List Preference)
    (failure : ConfigFailure) :
    settings.applyAll files preferences = .error failure ↔
      FirstRefusal files settings.directory settings.home preferences failure := by
  rw [applyAll_eq, firstRefusal_iff]
  cases preferences.findSome? (Preference.refusal? files settings.directory settings.home) <;> simp

/-- The preferences with those that name directories in front. -/
def directoriesFirst (preferences : List Preference) : List Preference :=
  preferences.filter (·.namesDirectory) ++ preferences.filter (!·.namesDirectory)

theorem sameBySubject_directoriesFirst (preferences : List Preference) :
    SameBySubject preferences (directoriesFirst preferences) := by
  intro subject
  have named : ∀ preference : Preference, preference.subject = subject →
      preference.namesDirectory = decide (subject = .home ∨ subject = .directory) := by
    rintro preference rfl
    rfl
  -- the preferences with one subject all stay on one side
  rw [directoriesFirst, List.filter_append, List.filter_filter, List.filter_filter]
  by_cases directory : subject = .home ∨ subject = .directory
  · have back : preferences.filter (fun preference => preference.subject = subject && !preference.namesDirectory)
        = [] := by
      simp +contextual [named, directory]
    rw [back, List.append_nil]
    exact List.filter_congr (by simp +contextual [named, directory])
  · have front : preferences.filter (fun preference => preference.subject = subject && preference.namesDirectory)
        = [] := by
      simp +contextual [named, directory]
    rw [front, List.nil_append]
    exact List.filter_congr (by simp +contextual [named, directory])

/-- Naming the directories first leaves the first refusal what it is. -/
theorem findSome?_directoriesFirst (files : FileSystem) (directory home : Path) (preferences : List Preference) :
    (directoriesFirst preferences).findSome? (Preference.refusal? files directory home) =
      preferences.findSome? (Preference.refusal? files directory home) := by
  have front : (preferences.filter (·.namesDirectory)).findSome? (Preference.refusal? files directory home)
      = none := by
    simp +contextual [Preference.refusal?_of_namesDirectory]
  have back : (preferences.filter (!·.namesDirectory)).findSome? (Preference.refusal? files directory home)
      = preferences.findSome? (Preference.refusal? files directory home) := by
    clear front
    induction preferences with
    | nil => rfl
    | cons preference rest ih =>
        cases names : preference.namesDirectory with
        | false => simp [names, List.findSome?_cons, ih]
        | true => simp [names, Preference.refusal?_of_namesDirectory names, ih]
  rw [directoriesFirst, List.findSome?_append, front, back, Option.none_or]

/-- Preferences do the same whether the directories are named first or not. -/
theorem Settings.applyAll_directoriesFirst (settings : Settings) (files : FileSystem)
    (preferences : List Preference) :
    settings.applyAll files (directoriesFirst preferences) = settings.applyAll files preferences := by
  rw [applyAll_eq, applyAll_eq, findSome?_directoriesFirst,
    (sameBySubject_directoriesFirst preferences).sum_eq]

namespace Configuration

variable {files : FileSystem} {environment : Environment} {first second preferences : List Preference}

/-- The settings that a build begins with. -/
def start (files : FileSystem) (environment : Environment) (preferences : List Preference) :
    Except ConfigFailure Settings := do
  let home ← settledHome environment preferences
  let directory ← settledDirectory environment preferences
  let sources ← SourceList.defaults files directory home
  return Settings.initial sources (Environment.filled environment.agentSocket) home directory

/-- A build that treats the finished settings in some way. A build reads its sources there and nowhere before. -/
def buildEnding {α : Type} (finish : Settings → Except ConfigFailure α) (files : FileSystem)
    (environment : Environment) (preferences : List Preference) : Except ConfigFailure α := do
  let settings ← start files environment preferences
  finish (← settings.applyAll files preferences)

theorem build_eq_buildEnding (files : FileSystem) (environment : Environment) (preferences : List Preference) :
    build files environment preferences = buildEnding (load files) files environment preferences := by
  simp only [build, buildFrom, buildOn, buildEnding, start, bind_assoc, pure_bind]

/-- The latest preference for the home directory is the last one that names it. -/
theorem preferredHome_eq (preferences : List Preference) :
    preferredHome preferences = (preferences.filterMap Preference.home?).getLast? := by
  induction preferences with
  | nil => rfl
  | cons preference rest ih =>
      cases preference with
      | homeDirectory path => rw [preferredHome, ih, ← List.getLast?_cons]; rfl
      | _ => exact ih

theorem preferredDirectory_eq (preferences : List Preference) :
    preferredDirectory preferences = (preferences.filterMap Preference.directory?).getLast? := by
  induction preferences with
  | nil => rfl
  | cons preference rest ih =>
      cases preference with
      | currentDirectory path => rw [preferredDirectory, ih, ← List.getLast?_cons]; rfl
      | _ => exact ih

/-- A build begins alike where the same directories are named. -/
theorem start_congr (home : first.filterMap Preference.home? = second.filterMap Preference.home?)
    (directory : first.filterMap Preference.directory? = second.filterMap Preference.directory?) :
    start files environment first = start files environment second := by
  simp only [start, settledHome, settledDirectory, preferredHome_eq, preferredDirectory_eq, home, directory]

theorem start_of_sameBySubject (same : SameBySubject first second) :
    start files environment first = start files environment second := by
  apply start_congr
  · exact same.filterMap_eq .home fun preference other => by cases preference <;> first | rfl | exact absurd rfl other
  · exact same.filterMap_eq .directory fun preference other => by
      cases preference <;> first | rfl | exact absurd rfl other

/-- A composed computation gives the value that its parts give. -/
theorem toOption_bind {ε α β : Type} (first : Except ε α) (next : α → Except ε β) :
    (first >>= next).toOption = first.toOption.bind fun value => (next value).toOption := by
  cases first <;> rfl

/-- What a build comes to depends on the order of preferences within each subject only. -/
theorem buildEnding_congr {α : Type} (finish : Settings → Except ConfigFailure α)
    (same : SameBySubject first second) :
    (buildEnding finish files environment first).toOption =
      (buildEnding finish files environment second).toOption := by
  simp only [buildEnding, toOption_bind, start_of_sameBySubject same, same.applyAll_eq]

/-- Naming the directories anywhere is naming them first. -/
theorem buildEnding_directoriesFirst {α : Type} (finish : Settings → Except ConfigFailure α) (files : FileSystem)
    (environment : Environment) (preferences : List Preference) :
    buildEnding finish files environment (directoriesFirst preferences) =
      buildEnding finish files environment preferences := by
  simp only [buildEnding, Settings.applyAll_directoriesFirst,
    start_of_sameBySubject (sameBySubject_directoriesFirst preferences)]

/-- A refused preference ends a build before the sources are read, whatever reading them would come to. -/
theorem buildEnding_of_firstRefusal {α : Type} (finish : Settings → Except ConfigFailure α) {settings : Settings}
    {failure : ConfigFailure} (started : start files environment preferences = .ok settings)
    (refused : FirstRefusal files settings.directory settings.home preferences failure) :
    buildEnding finish files environment preferences = .error failure := by
  have failed := (settings.applyAll_eq_error_iff files preferences failure).mpr refused
  simp only [buildEnding, started, failed, Except.bind, bind]

/-- No later port makes up for a port zero. -/
theorem buildEnding_of_zeroPort (files : FileSystem) (environment : Environment)
    (named : .port 0 ∈ preferences) :
    ∃ failure, ∀ (α : Type) (finish : Settings → Except ConfigFailure α),
      buildEnding finish files environment preferences = .error failure := by
  cases started : start files environment preferences with
  | error failure => exact ⟨failure, fun α finish => by simp only [buildEnding, started, Except.bind, bind]⟩
  | ok settings =>
      cases refused : preferences.findSome? (Preference.refusal? files settings.directory settings.home) with
      | none => exact absurd (List.findSome?_eq_none_iff.mp refused _ named) (by simp [Preference.refusal?])
      | some failure =>
          exact ⟨failure, fun α finish =>
            buildEnding_of_firstRefusal finish started ((firstRefusal_iff ..).mpr refused)⟩

/-- A build begins in the directories that are settled. -/
theorem settled_of_start {settings : Settings} (started : start files environment preferences = .ok settings) :
    settledHome environment preferences = .ok settings.home ∧
      settledDirectory environment preferences = .ok settings.directory := by
  obtain ⟨home, homeSettled, started⟩ := ok_of_bind started
  obtain ⟨directory, directorySettled, started⟩ := ok_of_bind started
  obtain ⟨sources, -, started⟩ := ok_of_bind started
  cases started
  exact ⟨homeSettled, directorySettled⟩

/-- A build that succeeds holds what its preferences add up to. -/
theorem settings_of_build {configuration : Configuration}
    (built : build files environment preferences = .ok configuration) :
    ∃ settings, start files environment preferences = .ok settings ∧
      configuration.settings = settings.sum files preferences := by
  rw [build_eq_buildEnding] at built
  obtain ⟨settings, started, built⟩ := ok_of_bind built
  obtain ⟨changed, applied, built⟩ := ok_of_bind built
  have summed : changed = settings.sum files preferences := by
    rw [Settings.applyAll_eq] at applied
    split at applied
    · cases applied
    · exact (Except.ok.inj applied).symm
  unfold load at built
  split at built
  · cases built
  · cases built
    exact ⟨settings, started, summed⟩

/-- A built configuration holds what its preferences add up to where nothing has been preferred before. -/
theorem sum_of_build {configuration : Configuration}
    (built : build files environment preferences = .ok configuration) :
    ∃ sources home directory, configuration.settings =
      (Settings.initial sources (Environment.filled environment.agentSocket) home directory).sum files preferences := by
  obtain ⟨settings, started, summed⟩ := settings_of_build built
  obtain ⟨home, -, started⟩ := ok_of_bind started
  obtain ⟨directory, -, started⟩ := ok_of_bind started
  obtain ⟨sources, -, started⟩ := ok_of_bind started
  cases started
  exact ⟨sources, home, directory, summed⟩

/-- The order of preferences counts only within a subject. Two lists with the same preferences about each subject, in
the same order, both fail to build or build the same configuration. When a preference cannot be applied, the failure
is that of the first one refused in the whole list. A build is one that ends by reading the sources of finished
settings, and that failure comes whatever such a build would end by, so that no source has been read. A port zero
is refused even if a later port takes its place. The directories may be named anywhere: the build is the one that
names them first, errors included, and every path of a preference is read from the latest of them. -/
theorem build_order (files : FileSystem) (environment : Environment) :
    (∀ first second, SameBySubject first second →
      (build files environment first).toOption = (build files environment second).toOption) ∧
    (∀ preferences settings failure, start files environment preferences = .ok settings →
      (settings.applyAll files preferences = .error failure ↔
        FirstRefusal files settings.directory settings.home preferences failure) ∧
      (FirstRefusal files settings.directory settings.home preferences failure →
        build files environment preferences = .error failure ∧
        ∀ (α : Type) (finish : Settings → Except ConfigFailure α),
          buildEnding finish files environment preferences = .error failure)) ∧
    (∀ preferences, build files environment preferences =
      buildEnding (load files) files environment preferences) ∧
    (∀ preferences, .port 0 ∈ preferences →
      ∃ failure, build files environment preferences = .error failure) ∧
    (∀ preferences, build files environment (directoriesFirst preferences) =
      build files environment preferences) ∧
    ∀ preferences configuration, build files environment preferences = .ok configuration →
      ∃ settings, start files environment preferences = .ok settings ∧
        configuration.settings = settings.sum files preferences ∧
        (∀ home, preferredHome preferences = some home → settings.home = home) ∧
        ∀ directory, preferredDirectory preferences = some directory → settings.directory = directory := by
  refine ⟨fun first second same => ?_, fun preferences settings failure started => ⟨?_, fun refused => ⟨?_, ?_⟩⟩,
    build_eq_buildEnding files environment, fun preferences named => ?_, fun preferences => ?_,
    fun preferences configuration built => ?_⟩
  · simpa only [build_eq_buildEnding] using buildEnding_congr (load files) same
  · exact settings.applyAll_eq_error_iff files preferences failure
  · rw [build_eq_buildEnding]
    exact buildEnding_of_firstRefusal _ started refused
  · exact fun α finish => buildEnding_of_firstRefusal finish started refused
  · obtain ⟨failure, fails⟩ := buildEnding_of_zeroPort files environment named
    exact ⟨failure, (build_eq_buildEnding ..).trans (fails _ _)⟩
  · rw [build_eq_buildEnding, build_eq_buildEnding]
    exact buildEnding_directoriesFirst ..
  · obtain ⟨settings, started, summed⟩ := settings_of_build built
    obtain ⟨homeSettled, directorySettled⟩ := settled_of_start started
    refine ⟨settings, started, summed, fun home latest => ?_, fun directory latest => ?_⟩
    · simp only [settledHome, latest, Option.some_or, Except.ok.injEq] at homeSettled
      exact homeSettled.symm
    · simp only [settledDirectory, latest, Except.ok.injEq] at directorySettled
      exact directorySettled.symm

/-- A file is found from a home directory that is named behind it, and a file that is missing is the failure even
though a port zero follows. -/
theorem build_order_shuffled :
    let files := FileSystem.holding ⟨"/h/own".toList⟩ (.ok (Text.utf8 "User a".toList))
    let first : List Preference :=
      [.homeDirectory ⟨"/h".toList⟩, .currentDirectory ⟨"/w".toList⟩, .appendFile "~/own".toList, .port 22]
    let second : List Preference :=
      [.port 22, .appendFile "~/own".toList, .currentDirectory ⟨"/w".toList⟩, .homeDirectory ⟨"/h".toList⟩]
    let refused : List Preference := .appendFile "~/gone".toList :: .port 0 :: second
    (build files .bare first).toOption = (build files .bare second).toOption ∧
      build files .bare refused = .error (.unreadableConfig ⟨"/h/gone".toList⟩ .notFound) ∧
      (∃ failure, build files .bare (.port 0 :: second) = .error failure) ∧
      build files .bare (directoriesFirst second) = build files .bare second ∧
      ∃ configuration, build files .bare second = .ok configuration ∧
        configuration.settings.home = ⟨"/h".toList⟩ ∧ configuration.settings.directory = ⟨"/w".toList⟩ := by
  intro files first second refused
  obtain ⟨order, refusal, -, port, moved, settled⟩ := build_order files .bare
  refine ⟨order first second ?_, ?_, port _ List.mem_cons_self, moved second, ?_⟩
  · intro subject
    cases subject <;> rfl
  · exact ((refusal refused _ _ rfl).2 ⟨[], .appendFile "~/gone".toList, .port 0 :: second, rfl, by simp, rfl⟩).1
  · obtain ⟨configuration, built⟩ : ∃ configuration, build files .bare second = .ok configuration := ⟨_, rfl⟩
    obtain ⟨settings, -, summed, home, directory⟩ := settled second configuration built
    refine ⟨configuration, built, ?_⟩
    rw [summed]
    exact ⟨home _ rfl, directory _ rfl⟩

end Configuration

end SecureShell
