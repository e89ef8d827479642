/-
Module: SecureShell.Proofs.RequiredSources
Purpose: Which broken sources make a build fail. A source that the caller has supplied since the sources were
  dropped last has to be readable as a configuration, unless another one stands at its place: one with another
  content, or a default file behind which the caller has only put it at the end. What a build leaves out are
  default files in front of which the caller has put nothing at their place.
Main exports: supplied, Broken, Unshadowed, exists_required, Configuration.build_of_broken,
  Configuration.leftOut_of_broken, Configuration.build_requires_supplied
-/
import SecureShell.Proofs.Acceptance
import SecureShell.Proofs.CallerHistory
import SecureShell.Proofs.LayeredLookup

namespace SecureShell

/-- The sources that a caller has supplied since all sources were dropped last. -/
def supplied (files : FileSystem) (directory home : Path) (preferences : List Preference) : List Source :=
  added (sinceClear (callerHistory files directory home preferences))

/-- A source whose content is not read as a configuration. -/
def Broken (files : FileSystem) (home : Path) (source : Source) : Prop :=
  ∀ document, source.document files home ≠ .ok document

/-! ### Whether a source is broken depends on its content -/

theorem Broken.congr {files : FileSystem} {home : Path} {source other : Source}
    (broken : Broken files home source) (same : other.content = source.content) :
    Broken files home other := by
  intro document read
  unfold Source.document at read
  rw [same] at read
  split at read
  · cases read
  · next text decoded =>
    obtain ⟨again, reads⟩ := (Document.exists_parse_eq_ok_iff ..).mpr
      ((Document.exists_parse_eq_ok_iff files _ other.path home).mp ⟨document, read⟩)
    refine broken again ?_
    simp only [Source.document, decoded]
    exact reads

/-! ### What stands at the place of a source -/

/-- No other source can take the place of a source and be read or left out in its stead: what has been added there
has the same content, and if it is optional, a source has been put in front. -/
structure Unshadowed (history : SourceHistory) (source : Source) : Prop where
  sameContent : ∀ other ∈ added (sinceClear history), other.SharesPlace source →
    other.content = source.content
  required : ∀ other ∈ added (sinceClear history), other.SharesPlace source → other.isOptional = true →
    Taken (unshifted (sinceClear history)) source

/-- The place of a source that nothing shadows is held by a source with its content that has to be read. -/
theorem exists_required {history : SourceHistory} {source : Source}
    (present : source ∈ added (sinceClear history)) (unshadowed : Unshadowed history source)
    (needed : ∀ other ∈ unshifted (sinceClear history), other.isOptional = false) :
    ∃ kept ∈ told history, kept.content = source.content ∧ kept.isOptional = false := by
  -- the latest source in front holds the place if there is one, and otherwise the first one at the end
  by_cases inFront : Taken (unshifted (sinceClear history)) source
  · obtain ⟨kept, member, shares⟩ := (taken_latest_iff ..).mpr inFront
    have fromFront := (latest_sublist _).subset member
    refine ⟨kept, by simp [told, member], unshadowed.sameContent kept ?_ shares, needed kept fromFront⟩
    exact (mem_added_iff ..).mpr (.inl fromFront)
  · have atEnd : Taken (appended (sinceClear history)) source := by
      rcases (mem_added_iff ..).mp present with front | back
      · exact absurd ⟨source, front, rfl⟩ inFront
      · exact ⟨source, back, rfl⟩
    obtain ⟨kept, member, shares⟩ := (taken_earliest_iff ..).mpr atEnd
    have addedThere : kept ∈ added (sinceClear history) :=
      (mem_added_iff ..).mpr (.inr ((earliest_sublist _).subset member))
    have free : ¬ Taken (unshifted (sinceClear history)) kept := fun taken => inFront (taken.congr shares)
    refine ⟨kept, by simp [told, member, free], unshadowed.sameContent kept addedThere shares, ?_⟩
    by_contra optional
    exact inFront (unshadowed.required kept addedThere shares (by simpa using optional))

/-- A source that a history tells was put in front, or at the end where none was put in front. -/
theorem mem_told {history : SourceHistory} {source : Source} (member : source ∈ told history) :
    source ∈ unshifted (sinceClear history) ∨
      source ∈ appended (sinceClear history) ∧ ¬ Taken (unshifted (sinceClear history)) source := by
  rcases List.mem_append.mp member with front | back
  · exact .inl ((latest_sublist _).subset (List.mem_reverse.mp front))
  · obtain ⟨kept, free⟩ := List.mem_filter.mp back
    exact .inr ⟨(earliest_sublist _).subset kept, by simpa using free⟩

/-! ### The history of a build -/

section

variable {files : FileSystem} {directory home : Path} {preferences : List Preference}

theorem clear_mem_callerHistory :
    .clear ∈ callerHistory files directory home preferences ↔ .clearSources ∈ preferences := by
  simp only [callerHistory, List.mem_flatMap]
  constructor
  · rintro ⟨preference, member, change⟩
    cases preference <;> simp [Preference.changes] at change
    exact member
  · exact fun member => ⟨.clearSources, member, by simp [Preference.changes]⟩

theorem required_of_file {written : Text} {source : Source}
    (member : source ∈ (Source.ofFile files written directory home).toOption.toList) :
    source.isOptional = false := by
  unfold Source.ofFile at member
  cases held : files.read (Path.expand written directory home) with
  | error cause => simp [held, Except.toOption] at member
  | ok content =>
      obtain rfl : source = ⟨Path.expand written directory home, content, false⟩ := by
        simpa [held, Except.toOption] using member
      rfl

/-- No source of a caller is optional. -/
theorem required_of_caller {source : Source}
    (member : source ∈ added (callerHistory files directory home preferences)) : source.isOptional = false := by
  simp only [added, callerHistory, List.mem_filterMap, List.mem_flatMap] at member
  obtain ⟨change, ⟨preference, _, made⟩, adds⟩ := member
  cases preference with
  | unshiftData content =>
      obtain rfl := List.mem_singleton.mp made
      obtain rfl := Option.some.inj adds
      rfl
  | appendData content =>
      obtain rfl := List.mem_singleton.mp made
      obtain rfl := Option.some.inj adds
      rfl
  | unshiftFile written =>
      obtain ⟨found, member, rfl⟩ := List.mem_map.mp made
      obtain rfl := Option.some.inj adds
      exact required_of_file member
  | appendFile written =>
      obtain ⟨found, member, rfl⟩ := List.mem_map.mp made
      obtain rfl := Option.some.inj adds
      exact required_of_file member
  | clearSources =>
      obtain rfl := List.mem_singleton.mp made
      cases adds
  | _ => cases made

/-- Default files count only in a history that never drops the sources. -/
theorem sinceClear_build (found : List Source) :
    sinceClear (found.map .append ++ callerHistory files directory home preferences) =
      if .clearSources ∈ preferences then sinceClear (callerHistory files directory home preferences)
      else found.map .append ++ callerHistory files directory home preferences := by
  have noClear : ∀ sources : List Source, sinceClear (sources.map .append) = sources.map .append := by
    intro sources
    refine List.rtakeWhile_eq_self_iff.mpr fun change member => ?_
    obtain ⟨source, _, rfl⟩ := List.mem_map.mp member
    rfl
  rw [sinceClear_append, noClear]
  exact if_congr clear_mem_callerHistory rfl rfl

/-- What is put in front is put there by the caller, hence not optional. -/
theorem required_of_unshifted {found : List Source} {source : Source}
    (member : source ∈ unshifted (sinceClear
      (found.map .append ++ callerHistory files directory home preferences))) : source.isOptional = false := by
  have whole : source ∈ unshifted _ := filterMap_sinceClear_subset _ _ member
  rw [unshifted_append, unshifted_map_append, List.nil_append] at whole
  exact required_of_caller ((mem_added_iff ..).mpr (.inl whole))

/-- What a caller has supplied is in the history of a build. -/
theorem mem_added_of_supplied {source : Source} (found : List Source)
    (member : source ∈ supplied files directory home preferences) :
    source ∈ added (sinceClear (found.map .append ++ callerHistory files directory home preferences)) := by
  rw [sinceClear_build]
  split
  · exact member
  · have whole : source ∈ added _ := filterMap_sinceClear_subset _ _ member
    rw [added_append]
    exact List.mem_append_right _ whole

end

namespace Configuration

variable {files : FileSystem} {environment : Environment} {preferences : List Preference}

/-- A build in which a source is broken that the caller has supplied fails, if nothing shadows the source. -/
theorem build_of_broken {home directory : Path} {source : Source}
    (homeSettled : settledHome environment preferences = .ok home)
    (directorySettled : settledDirectory environment preferences = .ok directory)
    (present : source ∈ supplied files directory home preferences) (broken : Broken files home source)
    (unshadowed : ∀ found, SourceList.foundDefaults files directory home = .ok found →
      Unshadowed (found.map .append ++ callerHistory files directory home preferences) source) :
    ∃ failure, build files environment preferences = .error failure := by
  cases ended : build files environment preferences with
  | error failure => exact ⟨failure, rfl⟩
  | ok configuration =>
      obtain ⟨found, built⟩ := built_of_build ended
      obtain rfl := Except.ok.inj (homeSettled.symm.trans built.home)
      obtain rfl := Except.ok.inj (directorySettled.symm.trans built.directory)
      obtain ⟨kept, member, sameContent, needed⟩ :=
        exists_required (mem_added_of_supplied found present) (unshadowed found built.defaults)
          fun other => required_of_unshifted
      rw [← built.sources] at member
      obtain ⟨document, read⟩ := (SourceList.load_eq_ok built.store).1 kept member needed
      exact absurd read (broken.congr sameContent document)

/-- A broken source that a build leaves out is a default file, all sources have never been dropped, and the caller
has put nothing in front at its place. -/
structure LeftOut (found : List Source) (history : SourceHistory) (source : Source) : Prop where
  byDefault : source ∈ found
  kept : .clear ∉ history
  notInFront : ¬ Taken (unshifted history) source

theorem leftOut_of_broken {configuration : Configuration} {found : List Source}
    (built : Built files environment preferences configuration found) {source : Source}
    (member : source ∈ configuration.settings.sources.sources)
    (broken : Broken files configuration.settings.home source) :
    LeftOut found
      (callerHistory files configuration.settings.directory configuration.settings.home preferences) source := by
  -- a source that had to be read would have made the build fail
  have optional : source.isOptional ≠ false := by
    intro needed
    obtain ⟨document, read⟩ := (SourceList.load_eq_ok built.store).1 source member needed
    exact broken document read
  rw [built.sources] at member
  rcases mem_told member with front | ⟨back, free⟩
  · exact absurd (required_of_unshifted front) optional
  · rw [sinceClear_build] at back free
    split at back
    · have whole : source ∈ appended _ := filterMap_sinceClear_subset _ _ back
      exact absurd (required_of_caller ((mem_added_iff ..).mpr (.inr whole))) optional
    · next never =>
      rw [if_neg never, unshifted_append, unshifted_map_append, List.nil_append] at free
      rw [appended_append, appended_map_append] at back
      rcases List.mem_append.mp back with byDefault | fromCaller
      · exact ⟨byDefault, mt clear_mem_callerHistory.mp never, free⟩
      · exact absurd (required_of_caller ((mem_added_iff ..).mpr (.inr fromCaller))) optional

/-- A source that the caller has supplied since the sources were dropped last has to be read as a configuration, or
the build fails, if no other source has come to its place that is read or left out in its stead. What a build leaves
out are default files that were never dropped and at whose places the caller has put nothing in front. -/
theorem build_requires_supplied (files : FileSystem) (environment : Environment) (preferences : List Preference) :
    (∀ home directory source, settledHome environment preferences = .ok home →
      settledDirectory environment preferences = .ok directory →
      source ∈ supplied files directory home preferences → Broken files home source →
      (∀ found, SourceList.foundDefaults files directory home = .ok found →
        Unshadowed (found.map .append ++ callerHistory files directory home preferences) source) →
      ∃ failure, build files environment preferences = .error failure) ∧
    ∀ configuration, build files environment preferences = .ok configuration →
      ∃ found, SourceList.foundDefaults files configuration.settings.directory configuration.settings.home
          = .ok found ∧
        ∀ source ∈ configuration.settings.sources.sources, Broken files configuration.settings.home source →
          LeftOut found (callerHistory files configuration.settings.directory configuration.settings.home
            preferences) source := by
  refine ⟨fun home directory source homeSettled directorySettled present broken unshadowed =>
    build_of_broken homeSettled directorySettled present broken unshadowed, fun configuration ended => ?_⟩
  obtain ⟨found, built⟩ := built_of_build ended
  exact ⟨found, built.defaults, fun source member broken => leftOut_of_broken built member broken⟩

end Configuration

/-! ### A default file that the caller names again -/

/-- A file system whose only file is the user's configuration, which is no configuration: it reads `Match a`. -/
def brokenDefault : FileSystem :=
  .holding ⟨"/h/.ssh/config".toList⟩ (.ok [0x4D, 0x61, 0x74, 0x63, 0x68, 0x20, 0x61])

/-- The source that the broken file becomes when the caller names it. -/
def brokenSource : Source where
  path := ⟨"/h/.ssh/config".toList⟩
  content := [0x4D, 0x61, 0x74, 0x63, 0x68, 0x20, 0x61]
  isOptional := false

theorem brokenSource_broken : Broken brokenDefault ⟨"/h".toList⟩ brokenSource := by
  intro document read
  have refused : (brokenSource.document brokenDefault ⟨"/h".toList⟩).isOk = false := by decide
  rw [read] at refused
  cases refused

namespace Configuration

/-- Put in front, the broken default file makes the build fail. -/
theorem build_requires_unshifted_default :
    let preferences := settledAt "/h".toList "/w".toList [.unshiftFile "~/.ssh/config".toList]
    brokenSource ∈ supplied brokenDefault ⟨"/w".toList⟩ ⟨"/h".toList⟩ preferences ∧
      Broken brokenDefault ⟨"/h".toList⟩ brokenSource ∧
      ∃ failure, build brokenDefault .bare preferences = .error failure := by
  intro preferences
  have present : brokenSource ∈ supplied brokenDefault ⟨"/w".toList⟩ ⟨"/h".toList⟩ preferences := by decide
  refine ⟨present, brokenSource_broken, ?_⟩
  refine (build_requires_supplied brokenDefault .bare preferences).1 _ _ brokenSource rfl rfl present
    brokenSource_broken fun found looked => ?_
  have only : SourceList.foundDefaults brokenDefault ⟨"/w".toList⟩ ⟨"/h".toList⟩
      = .ok [{ brokenSource with isOptional := true }] := by rfl
  obtain rfl := Except.ok.inj (only.symm.trans looked)
  exact ⟨by decide, by decide⟩

/-- Put at the end, it is left out although the caller has supplied it: the build succeeds. -/
theorem build_skips_appended_default :
    let preferences := settledAt "/h".toList "/w".toList [.appendFile "~/.ssh/config".toList]
    ¬ ∀ source ∈ supplied brokenDefault ⟨"/w".toList⟩ ⟨"/h".toList⟩ preferences,
      Broken brokenDefault ⟨"/h".toList⟩ source →
        ∃ failure, build brokenDefault .bare preferences = .error failure := by
  intro preferences fails
  have present : brokenSource ∈ supplied brokenDefault ⟨"/w".toList⟩ ⟨"/h".toList⟩ preferences := by decide
  obtain ⟨failure, failed⟩ := fails brokenSource present brokenSource_broken
  have succeeds : (build brokenDefault .bare preferences).isOk = true := by decide
  rw [failed] at succeeds
  cases succeeds

end Configuration

end SecureShell
