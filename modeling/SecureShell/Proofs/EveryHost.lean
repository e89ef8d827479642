/-
Module: SecureShell.Proofs.EveryHost
Purpose: What is said in front of the first host line, and an identity that is registered without patterns, stands
  under the pattern of a single asterisk. This pattern fits every host but those that begin with an asterisk and go
  on behind it: there the asterisk of the pattern is taken for the character of the host, and nothing is left of the
  pattern for the rest. So general settings and identities reach every host with that exception.
Main exports: Glob.takenLiterally, Glob.matches_asterisk, HostPattern.selects_any, Document.preface,
  Document.get_of_preface, Preference.openIdentity?, everyHost_reached
-/
import SecureShell.Config.Resolution
import SecureShell.Proofs.PreferenceOrder
import SecureShell.Proofs.ReadingOrder

namespace SecureShell

/-! ### The pattern for every host -/

namespace Glob

/-- Whether a text begins with an asterisk and goes on behind it. -/
def takenLiterally : Text → Bool
  | '*' :: _ :: _ => true
  | _ => false

/-- Behind an asterisk with nothing after it everything is taken. -/
theorem seek_nil (text : Text) : seek [] text = true := by
  induction text with
  | nil => simp [seek, attempt]
  | cons c text ih =>
      rw [seek]
      exact ih

/-- A single asterisk fits every text but those that begin with one and go on. -/
theorem matches_asterisk (text : Text) : Glob.matches ['*'] text = !takenLiterally text := by
  cases text with
  | nil => rfl
  | cons c rest =>
      by_cases same : c = '*'
      · subst same
        cases rest <;> rfl
      · have ordinary : takenLiterally (c :: rest) = false := by
          unfold takenLiterally
          split
          · next literal => exact absurd (List.cons.inj literal).1 same
          · rfl
        have met : attempt ['*'] (c :: rest) = .asterisk [] (c :: rest) := by
          simp [attempt, Ne.symm same]
        rw [Glob.matches, met, ordinary]
        exact seek_nil _

example : Glob.matches "*".toList "*x".toList = false := by decide

end Glob

theorem HostPattern.selects_any (host : Text) :
    HostPattern.selects [.any] host = !Glob.takenLiterally host := by
  have fits : HostPattern.any.matches host = !Glob.takenLiterally host := Glob.matches_asterisk host
  simp only [selects, scan, fits]
  cases Glob.takenLiterally host <;> rfl

/-- An identity for every host is for all but those hosts. -/
theorem Identity.isFor_of_everyHost {identity : Identity} (general : identity.pattern = everyHost) (host : Text) :
    identity.isFor host = !Glob.takenLiterally host := by
  rw [isFor, general]
  exact Glob.matches_asterisk host

/-! ### In front of the first host line -/

namespace Directive

/-- What a line says, if it can be read and says anything. -/
def said? (line : Text) : Option Directive :=
  match ofLine line with
  | .ok said => said
  | .error _ => none

/-- Whether a line is a host line. -/
def opensBlock : Directive → Bool
  | .host _ => true
  | _ => false

/-- Whether a line is an include line. -/
def includes : Directive → Bool
  | .include _ => true
  | _ => false

/-- The value that a line sets for a keyword. -/
def valueFor? (keyword : Text) : Directive → Option Text
  | .setting name value => if Text.SameLetters name keyword then some value else none
  | _ => none

/-- What lines say before the first host line. -/
def upToHost (lines : List Text) : List Directive :=
  (lines.filterMap said?).takeWhile (!·.opensBlock)

theorem upToHost_cons (line : Text) (rest : List Text) :
    upToHost (line :: rest) =
      match said? line with
      | none => upToHost rest
      | some directive => if directive.opensBlock then [] else directive :: upToHost rest := by
  unfold upToHost
  rw [List.filterMap_cons]
  cases said? line with
  | none => rfl
  | some directive => cases opens : directive.opensBlock <;> simp [opens]

end Directive

namespace Document

/-- What a text says in front of its first host line. -/
def preface (text : Text) : List Directive :=
  Directive.upToHost (Text.lines text)

variable {files : FileSystem} {home origin : Path}

/-- The entries before the first block hold the values that are set in front of the first host line. -/
theorem findInEntries_preface {nested : Option TextReader} {lines : List (Text × Nat)}
    {parts : List (List Item)} (read : lines.mapM (itemsOfLine files home nested origin) = .ok parts)
    (own : ∀ directive ∈ Directive.upToHost (lines.map Prod.fst), directive.includes = false)
    (host keyword : Text) :
    findInEntries host keyword (grouped parts.flatten).1 =
      (Directive.upToHost (lines.map Prod.fst)).findSome? (Directive.valueFor? keyword) := by
  induction lines generalizing parts with
  | nil =>
      cases read
      rfl
  | cons numbered rest ih =>
      obtain ⟨items, others, first, later, rfl⟩ := exists_of_mapM_cons read
      rw [List.map_cons, Directive.upToHost_cons] at own ⊢
      -- one case for each thing that a line may say
      rcases said : Directive.ofLine numbered.1 with fault | _ | ⟨patterns⟩ | ⟨targets⟩ | ⟨name, value⟩
      · simp [itemsOfLine, said] at first
      · obtain rfl : [] = items := by simpa [itemsOfLine, said] using first
        simp only [Directive.said?, said] at own ⊢
        simpa using ih later own
      · obtain rfl : [.opening (patterns.map HostPattern.ofText)] = items := by
          simpa [itemsOfLine, said] using first
        simp [Directive.said?, said, Directive.opensBlock, grouped, findInEntries]
      · simp [Directive.said?, said, Directive.opensBlock, Directive.includes] at own
      · obtain rfl : [.entry (.setting name value)] = items := by
          simpa [itemsOfLine, said] using first
        simp only [Directive.said?, said, Directive.opensBlock, Bool.false_eq_true, if_false,
          List.forall_mem_cons] at own ⊢
        rw [List.findSome?_cons, ← ih later own.2]
        simp only [List.flatten_cons, List.cons_append, List.nil_append, grouped, findInEntries, findInEntry,
          Directive.valueFor?]
        split <;> rfl

/-- For a host that they reach, the settings in front of the first host line outweigh all others; for any other host
only the blocks behind that line count. -/
theorem get_of_preface {text : Text} {document : Document} (read : parse files text origin home = .ok document)
    (own : ∀ directive ∈ preface text, directive.includes = false) (host keyword : Text) :
    document.get host keyword =
      if Glob.takenLiterally host then findInBlocks host keyword document.blocks.tail
      else ((preface text).findSome? (Directive.valueFor? keyword)).or
        (findInBlocks host keyword document.blocks.tail) := by
  obtain ⟨parts, lines, same⟩ := readLines_eq_ok read
  have front := findInEntries_preface lines (by simpa [preface] using own) host keyword
  rw [List.zipIdx_map_fst] at front
  rw [same, get, ofItems, findInBlocks, findInBlock, HostPattern.selects_any, front]
  cases Glob.takenLiterally host <;> rfl

end Document

/-! ### A single setting -/

/-- A document with one setting for every host has no other value. -/
theorem Document.get_single {host : Text} (selected : HostPattern.selects [.any] host = true)
    (name keyword value : Text) :
    Document.get ⟨[.scoped [.any] [.setting name value]]⟩ host keyword =
      if Text.SameLetters name keyword then some value else none := by
  simp [Document.get, findInBlocks, findInBlock, findInEntries, findInEntry, selected]

theorem Store.getWithBase_single {host : Text} (selected : HostPattern.selects [.any] host = true)
    {name value : Text} (given : value ≠ []) (path : Path) (keyword : Text) :
    Store.getWithBase ⟨[⟨path, ⟨[.scoped [.any] [.setting name value]]⟩⟩]⟩ host keyword =
      if Text.SameLetters name keyword then (value, path.parent?) else (builtinValue keyword, none) := by
  have found : valueIn host keyword ⟨path, ⟨[.scoped [.any] [.setting name value]]⟩⟩ =
      if Text.SameLetters name keyword then some value else none := by
    rw [valueIn, Document.get_single selected]
    split
    · simp [Option.filter_some, given]
    · rfl
  rw [getWithBase, find?, List.findSome?_singleton, found]
  split <;> rfl

/-! ### Identities without patterns -/

/-- The identity that a registration without patterns gives. -/
def Preference.openIdentity? (directory home : Path) : Preference → Option Identity
  | .identityFile written secret [] =>
      some ⟨Identity.everyHost, .file (Path.expand written directory home), secret⟩
  | .identityKey material secret [] => some ⟨Identity.everyHost, .inline material, secret⟩
  | _ => none

theorem Preference.openIdentity?_pattern {directory home : Path} {preference : Preference} {identity : Identity}
    (registers : preference.openIdentity? directory home = some identity) :
    identity.pattern = Identity.everyHost := by
  unfold openIdentity? at registers
  split at registers <;> cases registers <;> rfl

namespace Configuration

variable {files : FileSystem} {environment : Environment} {preferences : List Preference}
  {configuration : Configuration}

/-- A configuration holds every identity that is registered without patterns. -/
theorem openIdentity_mem (built : build files environment preferences = .ok configuration)
    {preference : Preference} (member : preference ∈ preferences) {identity : Identity}
    (registers : preference.openIdentity? configuration.settings.directory configuration.settings.home
      = some identity) : identity ∈ configuration.settings.identities := by
  obtain ⟨start, -, summed⟩ := settings_of_build built
  have own := content_mem_said member files start.directory start.home
  rw [summed] at registers ⊢
  have held : ∀ identities ∈ said files start.directory start.home .identities preferences,
      identity ∈ identities → identity ∈ (start.sum files preferences).identities := fun identities among within =>
    List.mem_append_right _ (List.mem_flatten.mpr ⟨identities, among, within⟩)
  unfold Preference.openIdentity? at registers
  split at registers
  · cases registers
    exact held _ own List.mem_cons_self
  · cases registers
    exact held _ own List.mem_cons_self
  · cases registers

/-- The keys of identities are those of its members. -/
theorem identityKeys_eq (files : FileSystem) (identities : List Identity) :
    identityKeys files identities = identities.mapM (identityKey files) := by
  induction identities with
  | nil => rfl
  | cons identity rest ih => rw [identityKeys, ih, List.mapM_cons]

/-- A held identity that is for a host is among the keys for the host, whenever these can be had. -/
theorem exists_key_of_identity {identity : Identity} (held : identity ∈ configuration.settings.identities)
    {host : Text} (meant : identity.isFor host = true) {keys : List KeyMaterial}
    (had : configuration.identities files host = .ok keys) :
    ∃ key ∈ keys, identityKey files identity = .ok key := by
  obtain ⟨registered, read, had⟩ := ok_of_bind had
  obtain ⟨named, -, had⟩ := ok_of_bind had
  rw [identityKeys_eq] at read
  obtain ⟨key, present, gives⟩ := exists_mem_of_mapM read (List.mem_filter.mpr ⟨held, meant⟩)
  cases named with
  | none =>
      cases had
      exact ⟨key, present, gives⟩
  | some path =>
      obtain ⟨content, -, had⟩ := ok_of_bind had
      cases had
      exact ⟨key, List.mem_append_left _ present, gives⟩

end Configuration

/-- What is set in front of the first host line, and an identity that is registered without patterns, reach every
host but those that begin with an asterisk and go on behind it; for these the settings and the identity do not count
at all. -/
theorem everyHost_reached (host : Text) :
    (∀ files text origin home document keyword value,
      Document.parse files text origin home = .ok document →
      (∀ directive ∈ Document.preface text, directive.includes = false) →
      (Document.preface text).findSome? (Directive.valueFor? keyword) = some value →
      document.get host keyword =
        if Glob.takenLiterally host then Document.findInBlocks host keyword document.blocks.tail
        else some value) ∧
    ∀ files environment preferences configuration preference identity,
      Configuration.build files environment preferences = .ok configuration →
      preference ∈ preferences →
      preference.openIdentity? configuration.settings.directory configuration.settings.home = some identity →
      identity ∈ configuration.settings.identities ∧
        identity.isFor host = !Glob.takenLiterally host ∧
        (Glob.takenLiterally host = false → ∀ later keys, configuration.identities later host = .ok keys →
          ∃ key ∈ keys, Configuration.identityKey later identity = .ok key) := by
  constructor
  · intro files text origin home document keyword value read own first
    rw [Document.get_of_preface read own, first, Option.some_or]
  · intro files environment preferences configuration preference identity built member registers
    have held := Configuration.openIdentity_mem built member registers
    have meant := Identity.isFor_of_everyHost (Preference.openIdentity?_pattern registers) host
    refine ⟨held, meant, fun reached later keys had => ?_⟩
    exact Configuration.exists_key_of_identity held (by rw [meant, reached]; rfl) had

/-- An ordinary host has the user of a text without host lines, and the key that is registered for every host. -/
theorem everyHost_reached_ordinary :
    let files := FileSystem.holding ⟨"/c".toList⟩ (.ok [])
    let preferences := settledAt "/h".toList "/w".toList [.identityKey [0x6B] none []]
    (∃ document, Document.parse files "User a".toList ⟨"/c".toList⟩ ⟨"/h".toList⟩ = .ok document ∧
      document.get "server".toList "User".toList = some "a".toList) ∧
    ∃ configuration keys, Configuration.build files .bare preferences = .ok configuration ∧
      configuration.identities files "server".toList = .ok keys ∧ ∃ key ∈ keys, key.content = [0x6B] := by
  intro files preferences
  obtain ⟨settings, identities⟩ := everyHost_reached "server".toList
  constructor
  · obtain ⟨document, read⟩ : ∃ document, Document.parse files "User a".toList ⟨"/c".toList⟩ ⟨"/h".toList⟩
      = .ok document := ⟨_, rfl⟩
    exact ⟨document, read, settings _ _ _ _ _ "User".toList _ read (by decide) rfl⟩
  · obtain ⟨configuration, built⟩ : ∃ configuration, Configuration.build files .bare preferences
      = .ok configuration := ⟨_, rfl⟩
    have registered : configuration.settings.identities = [⟨Identity.everyHost, .inline [0x6B], none⟩] := by
      cases built
      rfl
    have own : ∀ identity ∈ configuration.settings.identities, identity.isFor "server".toList = true := by
      rw [registered]
      intro identity member
      cases List.mem_singleton.mp member
      exact Identity.isFor_of_everyHost rfl _
    obtain ⟨keys, had⟩ : ∃ keys, configuration.identities files "server".toList = .ok keys := by
      rw [Configuration.identities, List.filter_eq_self.mpr own]
      cases built
      exact ⟨_, rfl⟩
    obtain ⟨-, -, among⟩ := identities _ _ _ _ (.identityKey [0x6B] none []) _ built (by decide) rfl
    obtain ⟨key, present, gives⟩ := among rfl files keys had
    cases gives
    exact ⟨configuration, keys, built, had, _, present, rfl⟩

/-- A host that begins with an asterisk goes without the user that is set for every host. -/
theorem everyHost_missed :
    ¬ ∀ files text origin home document host keyword value,
      Document.parse files text origin home = .ok document →
      (∀ directive ∈ Document.preface text, directive.includes = false) →
      (Document.preface text).findSome? (Directive.valueFor? keyword) = some value →
      document.get host keyword = some value := by
  intro reaches
  have missed := reaches (.holding ⟨"/c".toList⟩ (.ok [])) "User a".toList ⟨"/c".toList⟩ ⟨"/h".toList⟩ _
    "*x".toList "User".toList _ rfl (by decide) rfl
  exact absurd missed (by decide)

end SecureShell
