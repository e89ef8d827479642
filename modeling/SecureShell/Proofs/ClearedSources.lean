/-
Module: SecureShell.Proofs.ClearedSources
Purpose: Dropping all sources keeps the default files out of a build. As long as those of them that exist can be
  read, the build is the one that begins with no sources at all; and it depends on no files but those that
  the preferences name and those that the sources left over reach by their include lines. A default file
  that exists and cannot be read makes the build fail even so, because these files are read before the first
  preference is applied.
Main exports: SourceList.after_of_clear, Settings.applyAll_of_clear, Configuration.build_of_cleared,
  Configuration.DefaultsReadable, Configuration.Asked, Configuration.buildFrom_empty_congr,
  Configuration.build_isolated
-/
import SecureShell.Proofs.ReachedFiles
import SecureShell.Proofs.RequiredSources

namespace SecureShell

/-! ### Nothing is left of earlier sources -/

/-- Behind a clearing nothing is left of the sources that were there before. -/
theorem SourceList.after_of_clear {history : SourceHistory} (cleared : .clear ∈ history)
    (list other : SourceList) : list.after history = other.after history := by
  induction history generalizing list other with
  | nil => cases cleared
  | cons change rest ih =>
      rcases List.mem_cons.mp cleared with rfl | later
      · rfl
      · exact ih later _ _

/-- Preferences that drop all sources give the same settings whatever sources there were before. -/
theorem Settings.applyAll_of_clear {files : FileSystem} (settings : Settings) {preferences : List Preference}
    (cleared : .clearSources ∈ preferences) (list : SourceList) :
    (settings.onSources list).applyAll files preferences = settings.applyAll files preferences := by
  have own : settings.onSources settings.sources = settings := rfl
  conv_rhs => rw [← own]
  rw [applyAll_onSources, applyAll_onSources,
    SourceList.after_of_clear (clear_mem_callerHistory.mpr cleared) list settings.sources]

/-! ### What applying preferences asks of the files -/

/-- Files that answer alike give the same source. -/
theorem Source.ofFile_congr {files other : FileSystem} {written : Text} {directory home : Path}
    (alike : files.read (Path.expand written directory home) = other.read (Path.expand written directory home)) :
    Source.ofFile files written directory home = Source.ofFile other written directory home := by
  simp only [ofFile, alike]

/-- The file that a preference names as a source. -/
def Preference.sourceFile? : Preference → Option Text
  | .unshiftFile written => some written
  | .appendFile written => some written
  | _ => none

namespace Settings

variable {files other : FileSystem} {settings : Settings}

/-- What a preference does depends on the file that it names as a source and on no others. -/
theorem apply_congr {preference : Preference}
    (alike : ∀ written, preference.sourceFile? = some written →
      files.read (settings.place written) = other.read (settings.place written)) :
    settings.apply files preference = settings.apply other preference := by
  cases preference with
  | unshiftFile written => simp only [apply, withFile, Source.ofFile_congr (alike written rfl)]
  | appendFile written => simp only [apply, withFile, Source.ofFile_congr (alike written rfl)]
  | _ => rfl

theorem applyAll_congr {preferences : List Preference}
    (alike : ∀ preference ∈ preferences, ∀ written, preference.sourceFile? = some written →
      files.read (settings.place written) = other.read (settings.place written)) :
    settings.applyAll files preferences = settings.applyAll other preferences := by
  induction preferences generalizing settings with
  | nil => rfl
  | cons preference rest ih =>
      rw [applyAll, applyAll, ← apply_congr (alike preference List.mem_cons_self)]
      cases applied : settings.apply files preference with
      | error failure => rfl
      | ok changed =>
          obtain ⟨sameDirectory, sameHome⟩ := apply_directories applied
          refine ih fun later member written named => ?_
          rw [place, sameDirectory, sameHome]
          exact alike later (List.mem_cons_of_mem _ member) written named

end Settings

namespace Configuration

variable {files : FileSystem} {environment : Environment} {preferences : List Preference}

/-! ### The default files -/

/-- The default files that exist can be read. -/
def DefaultsReadable (files : FileSystem) (environment : Environment) (preferences : List Preference) : Prop :=
  ∀ home directory, settledHome environment preferences = .ok home →
    settledDirectory environment preferences = .ok directory →
    ∀ written ∈ SourceList.defaultPaths, files.present (Path.expand written directory home) = true →
      ∃ content, files.read (Path.expand written directory home) = .ok content

theorem DefaultsReadable.exists_defaults (readable : DefaultsReadable files environment preferences)
    {home directory : Path} (homeSettled : settledHome environment preferences = .ok home)
    (directorySettled : settledDirectory environment preferences = .ok directory) :
    ∃ list, SourceList.defaults files directory home = .ok list := by
  have each : ∀ written ∈ SourceList.defaultPaths,
      ∃ found, SourceList.defaultSource? files directory home written = .ok found := by
    intro written member
    cases taken : files.present (Path.expand written directory home) with
    | false => exact ⟨none, by simp [SourceList.defaultSource?, taken]⟩
    | true =>
        obtain ⟨content, read⟩ := readable home directory homeSettled directorySettled written member taken
        exact ⟨some ⟨Path.expand written directory home, content, true⟩,
          by simp [SourceList.defaultSource?, taken, read]⟩
  obtain ⟨found, looked⟩ := (exists_mapM_eq_ok_iff ..).mpr each
  rw [SourceList.defaults_eq, SourceList.foundDefaults, ← SourceList.defaultPaths, looked]
  exact ⟨_, rfl⟩

/-! ### Builds that drop all sources -/

/-- A build depends on the sources that it begins with in the settled directories only. -/
theorem buildFrom_congr {other : FileSystem} {initial initial' : Path → Path → Except ConfigFailure SourceList}
    (same : ∀ home directory, settledHome environment preferences = .ok home →
      settledDirectory environment preferences = .ok directory →
      (initial directory home >>= fun list => buildOn files environment home directory list preferences)
        = initial' directory home >>= fun list => buildOn other environment home directory list preferences) :
    buildFrom initial files environment preferences = buildFrom initial' other environment preferences := by
  unfold buildFrom
  exact bind_congr_of_ok fun home homeSettled => bind_congr_of_ok fun directory directorySettled =>
    same home directory homeSettled directorySettled

/-- A build that drops all sources does not depend on those it begins with. -/
theorem buildOn_of_cleared (cleared : .clearSources ∈ preferences) (home directory : Path)
    (list : SourceList) :
    buildOn files environment home directory list preferences =
      buildOn files environment home directory .empty preferences := by
  have onList : Settings.initial list (Environment.filled environment.agentSocket) home directory
      = (Settings.initial .empty (Environment.filled environment.agentSocket) home directory).onSources list :=
    rfl
  simp only [buildOn, onList, Settings.applyAll_of_clear _ cleared]

/-- A build that drops all sources begins with none, once the default files have been looked for. -/
theorem build_of_cleared (cleared : .clearSources ∈ preferences) :
    build files environment preferences =
      buildFrom (fun directory home => (SourceList.defaults files directory home).map fun _ => .empty)
        files environment preferences := by
  refine buildFrom_congr fun home directory _ _ => ?_
  cases found : SourceList.defaults files directory home with
  | error failure => rfl
  | ok list => exact buildOn_of_cleared cleared home directory list

/-- If the default files that exist can be read, it is the build that begins with no sources. -/
theorem build_eq_of_cleared (cleared : .clearSources ∈ preferences)
    (readable : DefaultsReadable files environment preferences) :
    build files environment preferences = buildFrom (fun _ _ => .ok .empty) files environment preferences := by
  rw [build_of_cleared cleared]
  refine buildFrom_congr fun home directory homeSettled directorySettled => ?_
  obtain ⟨list, found⟩ := readable.exists_defaults homeSettled directorySettled
  simp only [found, Except.map]

/-! ### The files that a build asks for -/

/-- The files that a build without default sources may ask for: a preference names them as a source, or a source
that is left over in the end reaches them by its include lines. -/
inductive Asked (files : FileSystem) (directory home : Path) (preferences : List Preference) : Path → Prop where
  | named {preference : Preference} {written : Text} (member : preference ∈ preferences)
      (named : preference.sourceFile? = some written) :
      Asked files directory home preferences (Path.expand written directory home)
  | reached {source : Source} {path : Path}
      (told : source ∈ told (callerHistory files directory home preferences))
      (reaches : source.Reaches files home path) : Asked files directory home preferences path

/-- Two file systems give the same answers about all files that such a build asks for. -/
def AnswerAlike (files other : FileSystem) (environment : Environment) (preferences : List Preference) : Prop :=
  ∀ home directory, settledHome environment preferences = .ok home →
    settledDirectory environment preferences = .ok directory →
    ∀ path, Asked files directory home preferences path → files.read path = other.read path

/-- A build that begins with no sources depends on the files that it asks for and on no others. -/
theorem buildFrom_empty_congr {other : FileSystem} (alike : AnswerAlike files other environment preferences) :
    buildFrom (fun _ _ => .ok .empty) files environment preferences =
      buildFrom (fun _ _ => .ok .empty) other environment preferences := by
  refine buildFrom_congr fun home directory homeSettled directorySettled => ?_
  have answers := alike home directory homeSettled directorySettled
  change buildOn files environment home directory .empty preferences
    = buildOn other environment home directory .empty preferences
  -- of the settings at the beginning only the directories and the empty list matter
  generalize begun : Settings.initial .empty (Environment.filled environment.agentSocket) home directory = start
  have directories : start.directory = directory ∧ start.home = home := by
    rw [← begun]
    exact ⟨rfl, rfl⟩
  have applies : start.applyAll files preferences = start.applyAll other preferences :=
    Settings.applyAll_congr fun preference member written named => by
      rw [Settings.place, directories.1, directories.2]
      exact answers _ (.named member named)
  simp only [buildOn, begun, ← applies]
  refine bind_congr_of_ok fun settings applied => ?_
  have kept : settings.sources.sources = told (callerHistory files directory home preferences) := by
    rw [Settings.applyAll_sources applied, directories.1, directories.2, ← begun]
    exact (SourceList.after_told _).2
  have loads : settings.sources.load files settings.home = settings.sources.load other settings.home := by
    rw [(Settings.applyAll_directories applied).2, directories.2]
    refine SourceList.load_congr fun source member path reaches => ?_
    rw [kept] at member
    simp only [FileSystem.readText, answers path (.reached member reaches)]
  rw [load, load, loads]

/-- A build that drops all sources is isolated from the default files, if those that exist can be read: it is the
build that begins with no sources, and it comes out alike wherever the files that the preferences name or the
remaining sources include are alike. -/
theorem build_isolated (cleared : .clearSources ∈ preferences)
    (readable : DefaultsReadable files environment preferences) :
    build files environment preferences = buildFrom (fun _ _ => .ok .empty) files environment preferences ∧
      ∀ other, DefaultsReadable other environment preferences → AnswerAlike files other environment preferences →
        build other environment preferences = build files environment preferences := by
  have own := build_eq_of_cleared cleared readable
  refine ⟨own, fun other otherReadable alike => ?_⟩
  rw [own, build_eq_of_cleared cleared otherReadable, buildFrom_empty_congr alike]

/-! ### A default file that is a directory -/

/-- Where nothing but one readable file exists, no default file is unreadable. -/
theorem defaultsReadable_holding (path : Path) (content : Bytes) :
    DefaultsReadable (.holding path (.ok content)) environment preferences := by
  intro home directory _ _ written _ taken
  have there : Path.expand written directory home = path := by simpa [FileSystem.holding] using taken
  exact ⟨content, by simp [FileSystem.holding, there]⟩

/-- A broken default file makes no difference to a build that drops all sources: it comes out as where that file
does not exist. -/
theorem build_isolated_broken_default :
    let preferences := settledAt "/h".toList "/w".toList [.clearSources]
    let without := FileSystem.holding ⟨"/h/notes".toList⟩ (.ok [])
    build without .bare preferences = build brokenDefault .bare preferences ∧
      (build brokenDefault .bare preferences).isOk = true := by
  intro preferences without
  have cleared : .clearSources ∈ preferences := by decide
  have nothing : ∀ preference ∈ preferences, preference.sourceFile? = none := by decide
  refine ⟨(build_isolated cleared (defaultsReadable_holding _ _)).2 without (defaultsReadable_holding _ _) ?_,
    by decide⟩
  intro home directory _ _ path asked
  cases asked with
  | named member named =>
      rw [nothing _ member] at named
      cases named
  | reached told reaches => cases told

/-- A directory where the user's configuration is looked for makes a build fail that drops all sources. -/
theorem build_fails_despite_clear :
    ¬ ∀ files environment preferences, .clearSources ∈ preferences →
      build files environment preferences = buildFrom (fun _ _ => .ok .empty) files environment preferences := by
  intro isolated
  let files := FileSystem.holding ⟨"/h/.ssh/config".toList⟩ (.error .isDirectory)
  let preferences := settledAt "/h".toList "/w".toList [.clearSources]
  have same := isolated files .bare preferences (by decide)
  have fails : (build files .bare preferences).isOk = false := by decide
  have succeeds : (buildFrom (fun _ _ => .ok .empty) files .bare preferences).isOk = true := by decide
  rw [same, succeeds] at fails
  cases fails

end Configuration

end SecureShell
