/-
Module: SecureShell.Proofs.LayeredLookup
Purpose: Looking a keyword up in nested blocks of several sources is a search through one list. The settings of
  all sources are put in one row, sources by priority, settings in text order, and those of an included
  document in the place of its include line; the answer is the value of the first setting in the row that has
  the keyword and whose enclosing pattern lists all select the host. A read document has no empty value, so
  that no source is passed over that has an answer.
Main exports: HostPattern.Selected, ScopedSetting.Answers, Store.settings, Store.AnswerTo,
  SourceList.FirstBroken, Document.find?_settingsOfBlocks, readAt_valued, SourceList.load_layered
-/
import SecureShell.Config.Store
import SecureShell.Proofs.DocumentForm

namespace SecureShell

namespace HostPattern

/-- A list of patterns selects a host: some positive pattern matches it, and no negated one does. -/
def Selected (patterns : List HostPattern) (host : Text) : Prop :=
  (∃ pattern ∈ patterns, pattern.negated = false ∧ pattern.matches host = true) ∧
    ∀ pattern ∈ patterns, pattern.negated = true → pattern.matches host = false

/-- Going through the patterns finds a positive match, unless there was one already, and no negated one. -/
theorem scan_iff (host : Text) (found : Bool) (patterns : List HostPattern) :
    scan host found patterns = true ↔
      (found = true ∨ ∃ pattern ∈ patterns, pattern.negated = false ∧ pattern.matches host = true) ∧
        ∀ pattern ∈ patterns, pattern.negated = true → pattern.matches host = false := by
  induction patterns generalizing found with
  | nil => simp [scan]
  | cons pattern rest ih =>
      unfold scan
      by_cases fits : pattern.matches host = true
      · by_cases negated : pattern.negated = true
        · simp [fits, negated]
        · simp [fits, negated, ih]
      · simp [fits, ih]

theorem selects_iff (patterns : List HostPattern) (host : Text) :
    selects patterns host = true ↔ Selected patterns host := by
  unfold selects
  rw [scan_iff]
  simp [Selected]

end HostPattern

namespace Document

/-- A setting answers the question for a keyword on a host: it has the keyword, and all pattern lists around
it select the host. -/
def ScopedSetting.Answers (host keyword : Text) (setting : ScopedSetting) : Prop :=
  Text.SameLetters setting.keyword keyword ∧
    ∀ patterns ∈ setting.scopes, HostPattern.Selected patterns host

/-- The test for an answer. -/
def ScopedSetting.answers (host keyword : Text) (setting : ScopedSetting) : Bool :=
  decide (Text.SameLetters setting.keyword keyword) && setting.appliesTo host

theorem ScopedSetting.answers_iff (host keyword : Text) (setting : ScopedSetting) :
    setting.answers host keyword = true ↔ setting.Answers host keyword := by
  simp [answers, Answers, appliesTo, HostPattern.selects_iff]

/-- Whether all pattern lists of a row select a host. -/
def selectedWithin (scopes : List (List HostPattern)) (host : Text) : Bool :=
  scopes.all fun patterns => HostPattern.selects patterns host

theorem selectedWithin_append (scopes : List (List HostPattern)) (patterns : List HostPattern)
    (host : Text) :
    selectedWithin (scopes ++ [patterns]) host =
      (selectedWithin scopes host && HostPattern.selects patterns host) := by
  simp [selectedWithin]

/-- The value of the first answer in a row of settings. -/
def firstValue (host keyword : Text) (settings : List ScopedSetting) : Option Text :=
  (settings.find? (ScopedSetting.answers host keyword)).map ScopedSetting.value

@[simp] theorem firstValue_nil (host keyword : Text) : firstValue host keyword [] = none := rfl

@[simp] theorem firstValue_append (host keyword : Text) (front back : List ScopedSetting) :
    firstValue host keyword (front ++ back) =
      (firstValue host keyword front).or (firstValue host keyword back) := by
  simp [firstValue, List.find?_append, Option.map_or]

/-! ### The nested search is the search through the row

The statement is about any scopes around the blocks: within scopes that do not all select the host, nothing
is found, which is what a block that does not select the host has to satisfy. -/

mutual

theorem find?_settingsOfBlocks (host keyword : Text) :
    ∀ (scopes : List (List HostPattern)) (blocks : List Block),
      firstValue host keyword (settingsOfBlocks scopes blocks) =
        if selectedWithin scopes host then findInBlocks host keyword blocks else none
  | scopes, [] => by simp [settingsOfBlocks, findInBlocks]
  | scopes, block :: rest => by
      have head := find?_settingsOfBlock host keyword scopes block
      have tail := find?_settingsOfBlocks host keyword scopes rest
      rw [settingsOfBlocks, firstValue_append, head, tail, findInBlocks]
      by_cases selected : selectedWithin scopes host = true <;> simp [selected]

theorem find?_settingsOfBlock (host keyword : Text) :
    ∀ (scopes : List (List HostPattern)) (block : Block),
      firstValue host keyword (settingsOfBlock scopes block) =
        if selectedWithin scopes host then findInBlock host keyword block else none
  | scopes, .scoped patterns entries => by
      have inner := find?_settingsOfEntries host keyword (scopes ++ [patterns]) entries
      rw [settingsOfBlock, inner, selectedWithin_append, findInBlock]
      by_cases selected : selectedWithin scopes host = true <;> simp [selected]

theorem find?_settingsOfEntries (host keyword : Text) :
    ∀ (scopes : List (List HostPattern)) (entries : List ConfigEntry),
      firstValue host keyword (settingsOfEntries scopes entries) =
        if selectedWithin scopes host then findInEntries host keyword entries else none
  | scopes, [] => by simp [settingsOfEntries, findInEntries]
  | scopes, entry :: rest => by
      have head := find?_settingsOfEntry host keyword scopes entry
      have tail := find?_settingsOfEntries host keyword scopes rest
      rw [settingsOfEntries, firstValue_append, head, tail, findInEntries]
      by_cases selected : selectedWithin scopes host = true <;> simp [selected]

theorem find?_settingsOfEntry (host keyword : Text) :
    ∀ (scopes : List (List HostPattern)) (entry : ConfigEntry),
      firstValue host keyword (settingsOfEntry scopes entry) =
        if selectedWithin scopes host then findInEntry host keyword entry else none
  | scopes, .setting name value => by
      rw [settingsOfEntry, findInEntry]
      have test : ScopedSetting.answers host keyword ⟨scopes, name, value⟩ =
          (decide (Text.SameLetters name keyword) && selectedWithin scopes host) := rfl
      by_cases selected : selectedWithin scopes host = true
      · by_cases same : Text.SameLetters name keyword <;> simp [firstValue, test, selected, same]
      · simp [firstValue, test, selected]
  | scopes, .included blocks => by
      rw [settingsOfEntry, findInEntry]
      exact find?_settingsOfBlocks host keyword scopes blocks

end

/-- The value that a document has is that of the first answer among its settings. -/
theorem get_eq_firstValue (document : Document) (host keyword : Text) :
    document.get host keyword = firstValue host keyword document.settings := by
  have row := find?_settingsOfBlocks host keyword [] document.blocks
  rw [if_pos (by simp [selectedWithin])] at row
  exact row.symm

/-! ### A read document has no empty value -/

/-- No setting of blocks has an empty value, whatever stands around the blocks. -/
def Valued (blocks : List Block) : Prop :=
  ∀ scopes, ∀ setting ∈ settingsOfBlocks scopes blocks, setting.value ≠ []

variable {files : FileSystem} {home : Path}

theorem readAt_valued {levels : Nat} {text : Text} {origin : Path} {document : Document}
    (read : readAt files home levels text origin = .ok document) : Valued document.blocks := by
  intro scopes setting member
  obtain ⟨inner, patterns, entries, holds, block, entry⟩ := exists_of_mem_settings member
  have formed := readAt_wellFormed read inner holds
  exact (formed.settings patterns entries block _ _ entry).valued

end Document

theorem Source.document_valued {files : FileSystem} {home : Path} {source : Source}
    {document : Document} (read : source.document files home = .ok document) :
    Document.Valued document.blocks := by
  unfold Source.document at read
  split at read
  · cases read
  · exact Document.readAt_valued read

namespace Store

open Document (ScopedSetting)

/-- The settings of all sources, sources by priority, each with the path of its source. -/
def settings (store : Store) : List (Path × ScopedSetting) :=
  store.sources.flatMap fun source => source.document.settings.map (Prod.mk source.path)

/-- The answer to the question for a keyword on a host: the first setting that answers it, with the directory
of the source that holds the setting, or the built-in value if there is no such setting. -/
inductive AnswerTo (store : Store) (host keyword : Text) : Text × Option Path → Prop where
  | found {before after : List (Path × ScopedSetting)} {path : Path} {setting : ScopedSetting}
      (row : store.settings = before ++ (path, setting) :: after)
      (answers : setting.Answers host keyword)
      (earlier : ∀ held ∈ before, ¬ held.2.Answers host keyword) :
      AnswerTo store host keyword (setting.value, path.parent?)
  | builtin (silent : ∀ held ∈ store.settings, ¬ held.2.Answers host keyword) :
      AnswerTo store host keyword (builtinValue keyword, none)

/-- No source has an empty value. -/
def Valued (store : Store) : Prop :=
  ∀ source ∈ store.sources, Document.Valued source.document.blocks

/-- A document without empty values gives what its first answer has. -/
theorem valueIn_eq {source : LoadedSource} (valued : Document.Valued source.document.blocks)
    (host keyword : Text) :
    valueIn host keyword source = Document.firstValue host keyword source.document.settings := by
  unfold valueIn
  rw [Document.get_eq_firstValue]
  cases first : Document.firstValue host keyword source.document.settings with
  | none => rfl
  | some value =>
      obtain ⟨setting, found, rfl⟩ := Option.map_eq_some_iff.mp first
      have nonempty := valued [] setting (List.mem_of_find?_eq_some found)
      simp [Option.filter, nonempty]

/-- The first answer in the row of one source. -/
theorem find?_row (source : LoadedSource) (host keyword : Text) :
    ((source.document.settings.map (Prod.mk source.path)).find?
        fun held => held.2.answers host keyword).map (fun held => (held.2.value, held.1.parent?)) =
      (Document.firstValue host keyword source.document.settings).map
        fun value => (value, source.path.parent?) := by
  rw [List.find?_map, Document.firstValue, Option.map_map, Option.map_map]
  rfl

/-- The search through the sources is the search through the row of all settings. -/
theorem find?_eq {store : Store} (valued : store.Valued) (host keyword : Text) :
    store.find? host keyword =
      (store.settings.find? fun held => held.2.answers host keyword).map
        fun held => (held.2.value, held.1.parent?) := by
  unfold find? settings
  rw [List.find?_flatMap, List.map_findSome?]
  obtain ⟨sources⟩ := store
  induction sources with
  | nil => rfl
  | cons source rest ih =>
      have later := ih fun other member => valued other (List.mem_cons_of_mem _ member)
      have here := valueIn_eq (valued source List.mem_cons_self) host keyword
      rw [List.findSome?_cons, List.findSome?_cons, later, here, Function.comp_apply, find?_row]

theorem getWithBase_answerTo {store : Store} (valued : store.Valued) (host keyword : Text) :
    store.AnswerTo host keyword (store.getWithBase host keyword) := by
  unfold getWithBase
  rw [find?_eq valued]
  cases first : store.settings.find? fun held => held.2.answers host keyword with
  | none =>
      refine .builtin fun held member answers => ?_
      exact List.find?_eq_none.mp first held member ((held.2.answers_iff host keyword).mpr answers)
  | some held =>
      obtain ⟨answers, before, after, row, earlier⟩ := List.find?_eq_some_iff_append.mp first
      refine .found row ((held.2.answers_iff host keyword).mp answers) fun other member again => ?_
      have rejected := earlier other member
      rw [(other.2.answers_iff host keyword).mpr again] at rejected
      cases rejected

/-- The answer to a question is the only one. -/
theorem answerTo_iff {store : Store} (valued : store.Valued) (host keyword : Text)
    (answer : Text × Option Path) : store.AnswerTo host keyword answer ↔ answer = store.getWithBase host keyword := by
  constructor
  · intro answers
    unfold getWithBase
    rw [find?_eq valued]
    cases answers with
    | @found before after path setting row meets earlier =>
        have first : store.settings.find? (fun held => held.2.answers host keyword) = some (path, setting) := by
          refine List.find?_eq_some_iff_append.mpr
            ⟨(setting.answers_iff host keyword).mpr meets, before, after, row, fun held member => ?_⟩
          have rejected := earlier held member
          rw [← Document.ScopedSetting.answers_iff] at rejected
          simpa using rejected
        rw [first]
        rfl
    | builtin silent =>
        have nothing : store.settings.find? (fun held => held.2.answers host keyword) = none := by
          refine List.find?_eq_none.mpr fun held member => ?_
          rw [Document.ScopedSetting.answers_iff]
          exact silent held member
        rw [nothing]
        rfl
  · rintro rfl
    exact getWithBase_answerTo valued host keyword

end Store

namespace SourceList

/-- The first source that is not optional and cannot be read, with the reason. -/
def FirstBroken (files : FileSystem) (home : Path) (sources : List Source) (failure : SyntaxError) :
    Prop :=
  ∃ before source after, sources = before ++ source :: after ∧ source.isOptional = false ∧
    source.document files home = .error failure ∧
    ∀ earlier ∈ before, earlier.isOptional = false →
      ∃ document, earlier.document files home = .ok document

/-- A source as it is kept, if it can be read. -/
def loaded? (files : FileSystem) (home : Path) (source : Source) : Option LoadedSource :=
  match source.document files home with
  | .ok document => some ⟨source.path, document⟩
  | .error _ => none

variable {files : FileSystem} {home : Path}

/-- Reading the sources ends at the first broken one, or keeps every source that can be read. -/
theorem loadAll_cases (files : FileSystem) (home : Path) (sources : List Source) :
    (∃ failure, loadAll files home sources = .error failure ∧
        FirstBroken files home sources failure) ∨
      (loadAll files home sources = .ok (sources.filterMap (loaded? files home)) ∧
        ∀ source ∈ sources, source.isOptional = false →
          ∃ document, source.document files home = .ok document) := by
  induction sources with
  | nil => exact .inr ⟨rfl, by simp⟩
  | cons source rest ih =>
      unfold loadAll
      cases read : source.document files home with
      | ok document =>
          have kept : loaded? files home source = some ⟨source.path, document⟩ := by
            simp only [loaded?, read]
          rcases ih with ⟨failure, broken, before, found, after, rfl, fatal, failed, earlier⟩ |
            ⟨all, readable⟩
          · refine .inl ⟨failure, by simp [broken, Except.map], source :: before, found, after, rfl,
              fatal, failed, ?_⟩
            intro other member
            rcases List.mem_cons.mp member with rfl | member
            · exact fun _ => ⟨document, read⟩
            · exact earlier other member
          · refine .inr ⟨by simp [all, kept, Except.map], ?_⟩
            intro other member
            rcases List.mem_cons.mp member with rfl | member
            · exact fun _ => ⟨document, read⟩
            · exact readable other member
      | error failure =>
          have dropped : loaded? files home source = none := by simp only [loaded?, read]
          by_cases optional : source.isOptional = true
          · simp only [if_pos optional, List.filterMap_cons, dropped]
            rcases ih with ⟨other, broken, before, found, after, rfl, fatal, failed, earlier⟩ |
              ⟨all, readable⟩
            · refine .inl ⟨other, broken, source :: before, found, after, rfl, fatal, failed, ?_⟩
              intro member present
              rcases List.mem_cons.mp present with rfl | present
              · exact fun needed => absurd optional (by simp [needed])
              · exact earlier member present
            · refine .inr ⟨all, ?_⟩
              intro other member
              rcases List.mem_cons.mp member with rfl | member
              · exact fun needed => absurd optional (by simp [needed])
              · exact readable other member
          · have fatal : source.isOptional = false := by simpa using optional
            exact .inl ⟨failure, by simp [optional], [], source, rest, rfl, fatal, read, by simp⟩

theorem loadAll_of_firstBroken {sources : List Source} {failure : SyntaxError}
    (broken : FirstBroken files home sources failure) :
    loadAll files home sources = .error failure := by
  obtain ⟨before, source, after, rfl, fatal, failed, earlier⟩ := broken
  induction before with
  | nil => simp [loadAll, failed, fatal]
  | cons other before ih =>
      have later := ih fun member present => earlier member (List.mem_cons_of_mem _ present)
      rw [List.cons_append, loadAll, later]
      cases read : other.document files home with
      | ok document => rfl
      | error reason =>
          by_cases optional : other.isOptional = true
          · simp [optional]
          · obtain ⟨document, decoded⟩ := earlier other List.mem_cons_self (by simpa using optional)
            rw [read] at decoded
            cases decoded

theorem load_eq_ok {list : SourceList} {store : Store} (loaded : list.load files home = .ok store) :
    (∀ source ∈ list.sources, source.isOptional = false →
        ∃ document, source.document files home = .ok document) ∧
      store.sources = list.sources.filterMap (loaded? files home) := by
  unfold load at loaded
  rcases loadAll_cases files home list.sources with ⟨failure, broken, _⟩ | ⟨all, readable⟩
  · simp [broken, Except.map] at loaded
  · obtain rfl : Store.mk (list.sources.filterMap (loaded? files home)) = store := by
      simpa [all, Except.map] using loaded
    exact ⟨readable, rfl⟩

theorem load_eq_error_iff (files : FileSystem) (home : Path) (list : SourceList)
    (failure : SyntaxError) :
    list.load files home = .error failure ↔ FirstBroken files home list.sources failure := by
  unfold load
  constructor
  · intro failed
    rcases loadAll_cases files home list.sources with ⟨other, broken, first⟩ | ⟨all, _⟩
    · obtain rfl : other = failure := by simpa [broken, Except.map] using failed
      exact first
    · simp [all, Except.map] at failed
  · intro broken
    rw [loadAll_of_firstBroken broken]
    rfl

/-- A loaded store has no empty value. -/
theorem load_valued {list : SourceList} {store : Store} (loaded : list.load files home = .ok store) :
    store.Valued := by
  intro source member
  rw [(load_eq_ok loaded).2, List.mem_filterMap] at member
  obtain ⟨original, _, kept⟩ := member
  unfold loaded? at kept
  split at kept
  · next document read =>
    cases kept
    exact original.document_valued read
  · cases kept

/-- Loading a list of sources fails exactly at the first source that has to be readable and is not; otherwise
it keeps the readable sources in their order. What a loaded store answers is the first setting in the row of
all settings that has the keyword and lies within pattern lists that all select the host, with the directory
of its source, or else the built-in value; and a pattern list selects a host when a positive pattern matches
it and no negated one does. -/
theorem load_layered (files : FileSystem) (home : Path) (list : SourceList) :
    (∀ failure, list.load files home = .error failure ↔
      FirstBroken files home list.sources failure) ∧
    (∀ store, list.load files home = .ok store →
      store.sources = list.sources.filterMap (loaded? files home) ∧
        ∀ host keyword, store.AnswerTo host keyword (store.getWithBase host keyword)) ∧
    ∀ patterns host, HostPattern.selects patterns host = true ↔
      HostPattern.Selected patterns host := by
  refine ⟨load_eq_error_iff files home list, ?_, HostPattern.selects_iff⟩
  intro store loaded
  refine ⟨(load_eq_ok loaded).2, fun host keyword => ?_⟩
  exact Store.getWithBase_answerTo (load_valued loaded) host keyword

end SourceList

end SecureShell
