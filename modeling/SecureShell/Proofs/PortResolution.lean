/-
Module: SecureShell.Proofs.PortResolution
Purpose: Which port a configuration gives for a host. The latest preference decides, and without one the numeral that
  the sources give, if its value is neither zero nor too large; anything else is refused with the text that was
  found. The keyword asked for by name, in letters of any case, gives a text for the same port, and a destination has
  that port or fails as the port does, whatever the files of the keys are like.
Main exports: preferredPort, Store.getWithBase_congr, Configuration.port_eq_ok_iff, Configuration.port_eq_error_iff,
  Configuration.PortResolved, Configuration.port_resolved
-/
import SecureShell.Config.Resolution
import SecureShell.Proofs.EveryHost
import SecureShell.Proofs.LayeredLookup
import SecureShell.Proofs.PortNumbers

namespace SecureShell

/-! ### The preferred port -/

/-- The port that a preference asks for. -/
def Preference.port? : Preference → Option Port
  | .port number => some number
  | _ => none

/-- The latest preference for the port. -/
def preferredPort (preferences : List Preference) : Option Port :=
  (preferences.filterMap Preference.port?).getLast?

theorem said_port (files : FileSystem) (directory home : Path) (preferences : List Preference) :
    said files directory home .port preferences = preferences.filterMap Preference.port? := by
  apply List.filterMap_congr
  intro preference _
  cases preference <;> simp [Preference.subject, Preference.content, Preference.port?]

theorem mem_of_preferredPort {preferences : List Preference} {port : Port}
    (preferred : preferredPort preferences = some port) : .port port ∈ preferences := by
  obtain ⟨preference, member, asked⟩ := List.mem_filterMap.mp (List.mem_of_getLast? preferred)
  cases preference with
  | port other =>
      cases asked
      exact member
  | _ => cases asked

/-! ### Keywords in letters of any case -/

theorem Document.get_congr {keyword other : Text} (same : Text.SameLetters keyword other) (document : Document)
    (host : Text) : document.get host keyword = document.get host other := by
  have answers : ScopedSetting.answers host keyword = ScopedSetting.answers host other := by
    funext setting
    have spelled : Text.SameLetters setting.keyword keyword ↔ Text.SameLetters setting.keyword other :=
      ⟨fun named => named.trans same, fun named => named.trans same.symm⟩
    simp only [ScopedSetting.answers, spelled]
  rw [get_eq_firstValue, get_eq_firstValue, firstValue, firstValue, answers]

theorem builtinValue_congr {keyword other : Text} (same : Text.SameLetters keyword other) :
    builtinValue keyword = builtinValue other := by
  unfold builtinValue
  rw [same]

/-- A store gives the same answer for a keyword in small and in capital letters. -/
theorem Store.getWithBase_congr {keyword other : Text} (same : Text.SameLetters keyword other) (store : Store)
    (host : Text) : store.getWithBase host keyword = store.getWithBase host other := by
  have values : valueIn host keyword = valueIn host other := by
    funext source
    rw [valueIn, valueIn, Document.get_congr same]
  rw [getWithBase, getWithBase, find?, find?, values, builtinValue_congr same]

/-! ### The port of a configuration -/

namespace Configuration

/-- The text for the port of a host that the sources give. -/
def writtenPort (configuration : Configuration) (host : Text) : Text :=
  configuration.store.get host "Port".toList

section

variable {configuration : Configuration} {host : Text} {port : Port} {failure : ConfigFailure}

theorem port_of_override (preferred : configuration.settings.overrides.port = some port) :
    configuration.port host = .ok port := by
  rw [Configuration.port, preferred]

theorem port_eq_ok_iff (free : configuration.settings.overrides.port = none) :
    configuration.port host = .ok port ↔ Port.read? (configuration.writtenPort host) = some port ∧ port ≠ 0 := by
  simp only [Configuration.port, free, writtenPort]
  cases Port.read? (configuration.store.get host "Port".toList) with
  | none => simp
  | some found =>
      by_cases zero : found = 0
      · simp only [zero, if_true]
        constructor
        · intro settled
          cases settled
        · rintro ⟨⟨⟩, nonzero⟩
          exact absurd rfl nonzero
      · simp only [zero, if_false]
        constructor
        · rintro ⟨⟩
          exact ⟨rfl, zero⟩
        · rintro ⟨⟨⟩, -⟩
          rfl

theorem port_eq_error_iff : configuration.port host = .error failure ↔
    configuration.settings.overrides.port = none ∧
      failure = .invalidPort host (configuration.writtenPort host) ∧
      ∀ port, Port.read? (configuration.writtenPort host) = some port → port = 0 := by
  simp only [Configuration.port, writtenPort]
  cases configuration.settings.overrides.port with
  | some port => simp
  | none =>
      cases Port.read? (configuration.store.get host "Port".toList) with
      | none => simp [eq_comm]
      | some found =>
          by_cases zero : found = 0 <;> simp [zero, eq_comm]

/-- Asked for the port in letters of any case, a configuration gives the preferred port in digits or the text that
the sources give. -/
theorem get_port {keyword : Text} (named : Text.SameLetters keyword "port".toList) :
    configuration.get host keyword =
      (configuration.settings.overrides.port.map Port.text).getD (configuration.writtenPort host) := by
  have folded : Text.lower keyword = "port".toList := named
  have spelled : Text.SameLetters keyword "Port".toList := named
  have other : "port".toList ≠ "user".toList := by decide
  simp only [Configuration.get, folded, if_neg other, if_true, writtenPort, Store.get,
    Store.getWithBase_congr spelled]
  cases configuration.settings.overrides.port <;> rfl

end

/-- The port of a configuration that is built with preferences: it is in range; the latest preference is it, and
without one a numeral of the sources is it exactly if it has its value. What the sources give is refused exactly if
it is no numeral in range, and is part of the failure. Read into sixteen bits digit by digit it never leaves them.
Asked for by its keyword it is the same port. A destination fails as the port does, whatever the files are, or has the
port unless the keys cannot be had. -/
structure PortResolved (preferences : List Preference) (configuration : Configuration) (host : Text) : Prop where
  inRange : ∀ port, configuration.port host = .ok port → 1 ≤ port.toNat ∧ port.toNat ≤ 65535
  preferred : ∀ port, preferredPort preferences = some port → configuration.port host = .ok port
  written : preferredPort preferences = none → ∀ port, configuration.port host = .ok port ↔
    Port.Numeral (configuration.writtenPort host) port.toNat ∧ 1 ≤ port.toNat
  refused : ∀ failure, configuration.port host = .error failure ↔ preferredPort preferences = none ∧
    failure = .invalidPort host (configuration.writtenPort host) ∧
    ¬ ∃ value, Port.Numeral (configuration.writtenPort host) value ∧ 1 ≤ value ∧ value ≤ 65535
  stepwise : preferredPort preferences = none → ∀ port, configuration.port host = .ok port →
    (Text.afterOptional '+' (configuration.writtenPort host)).foldlM Port.shift? 0 = some port
  named : ∀ keyword, Text.SameLetters keyword "port".toList → ∀ port : Port, 1 ≤ port.toNat →
    (Port.read? (configuration.get host keyword) = some port ↔ configuration.port host = .ok port)
  stopped : ∀ failure, configuration.port host = .error failure →
    ∀ files, configuration.destination files host = .error failure
  carried : ∀ port, configuration.port host = .ok port → ∀ files,
    (∀ destination, configuration.destination files host = .ok destination → destination.port = port) ∧
    ∀ failure, configuration.destination files host = .error failure ↔
      configuration.identities files host = .error failure

section

variable {files : FileSystem} {environment : Environment} {preferences : List Preference}
  {configuration : Configuration} {host : Text} {port : Port} {failure : ConfigFailure}

/-- The settings of a built configuration hold the preferred port. -/
theorem override_of_build (built : build files environment preferences = .ok configuration) :
    configuration.settings.overrides.port = preferredPort preferences := by
  obtain ⟨sources, home, directory, summed⟩ := sum_of_build built
  rw [summed]
  simp only [Settings.sum, Settings.sum.about, Settings.initial, said_port, preferredPort, Option.or_none]

/-- Zero is no preferred port, because no build accepts it. -/
theorem preferredPort_ne_zero (built : build files environment preferences = .ok configuration)
    (preferred : preferredPort preferences = some port) : port ≠ 0 := by
  rintro rfl
  obtain ⟨failure, refused⟩ := buildEnding_of_zeroPort files environment (mem_of_preferredPort preferred)
  rw [build_eq_buildEnding, refused] at built
  cases built

/-- A destination is resolved behind its port. -/
theorem destination_of_port_error (unsettled : configuration.port host = .error failure) (files : FileSystem) :
    configuration.destination files host = .error failure := by
  simp only [destination, unsettled]
  rfl

theorem destination_of_port (settled : configuration.port host = .ok port) (files : FileSystem) :
    (∀ destination, configuration.destination files host = .ok destination → destination.port = port) ∧
      ∀ failure, configuration.destination files host = .error failure ↔
        configuration.identities files host = .error failure := by
  constructor
  · intro destination resolved
    obtain ⟨other, keys, again, -, rfl⟩ := destination_eq_ok_iff.mp resolved
    exact Except.ok.inj (again.symm.trans settled)
  · intro failure
    rw [Configuration.destination, bind_of_ok settled rfl, bind_eq_error_iff]
    simp [pure, Except.pure]

/-- Where no port is preferred, it is the value of the numeral that is found. -/
theorem port_eq_ok_iff_numeral (free : configuration.settings.overrides.port = none) :
    configuration.port host = .ok port ↔
      Port.Numeral (configuration.writtenPort host) port.toNat ∧ 1 ≤ port.toNat := by
  rw [port_eq_ok_iff free, Port.read?_eq_some_iff, Port.one_le_toNat]

end

/-- Every built configuration resolves the port of every host in this way. -/
theorem port_resolved {files : FileSystem} {environment : Environment} {preferences : List Preference}
    {configuration : Configuration} (built : build files environment preferences = .ok configuration)
    (host : Text) : PortResolved preferences configuration host := by
  have override := override_of_build built
  refine
    { inRange := ?_, preferred := ?_, written := ?_, refused := ?_, stepwise := ?_, named := ?_,
      stopped := fun failure => destination_of_port_error, carried := fun port => destination_of_port }
  · intro port settled
    refine ⟨Port.one_le_toNat.mpr ?_, Nat.le_of_lt_succ port.toNat_lt⟩
    cases preferred : preferredPort preferences with
    | some other =>
        rw [port_of_override (override.trans preferred)] at settled
        cases settled
        exact preferredPort_ne_zero built preferred
    | none => exact ((port_eq_ok_iff (override.trans preferred)).mp settled).2
  · intro port preferred
    exact port_of_override (override.trans preferred)
  · intro free port
    exact port_eq_ok_iff_numeral (override.trans free)
  · intro failure
    rw [port_eq_error_iff, override, Port.forall_read?_eq_zero_iff]
  · intro free port settled
    have read := ((port_eq_ok_iff (override.trans free)).mp settled).1
    obtain ⟨-, -, value⟩ := Port.numeral_iff.mp (Port.read?_eq_some_iff.mp read)
    rw [Port.foldlM_shift?, Port.ofDigitChars_eq, Port.fit?_eq_some_iff, value]
    simp
  · intro keyword named port positive
    rw [get_port named, override]
    cases preferred : preferredPort preferences with
    | some other =>
        have settled : configuration.port host = .ok other := port_of_override (override.trans preferred)
        simp only [Option.map_some, Option.getD_some, Port.read?_text, settled, Option.some.injEq, Except.ok.injEq]
    | none =>
        rw [port_eq_ok_iff (override.trans preferred), ← Port.one_le_toNat]
        exact ⟨fun read => ⟨read, positive⟩, fun settled => settled.1⟩

/-- The file says `Port +0022`: the sign and the zeros count for nothing. -/
theorem port_resolved_signed :
    let files := FileSystem.holding ⟨"/c".toList⟩
      (.ok [0x50, 0x6F, 0x72, 0x74, 0x20, 0x2B, 0x30, 0x30, 0x32, 0x32])
    let preferences := settledAt "/h".toList "/w".toList [.appendFile "/c".toList]
    ∃ configuration, build files .bare preferences = .ok configuration ∧
      configuration.writtenPort "h".toList = "+0022".toList ∧ configuration.port "h".toList = .ok 22 ∧
      Port.read? (configuration.get "h".toList "PORT".toList) = some 22 := by
  intro files preferences
  obtain ⟨configuration, built⟩ : ∃ configuration, build files .bare preferences = .ok configuration := ⟨_, rfl⟩
  have resolved := port_resolved built "h".toList
  have written : configuration.writtenPort "h".toList = "+0022".toList := by
    have store : configuration.store =
        ⟨[⟨⟨"/c".toList⟩, ⟨[.scoped [.any] [.setting "Port".toList "+0022".toList]]⟩⟩]⟩ := by
      cases built
      rfl
    rw [writtenPort, Store.get, store, Store.getWithBase_single (HostPattern.selects_any _) (by decide)]
    rfl
  have numeral : Port.Numeral (configuration.writtenPort "h".toList) (22 : Port).toNat := by
    rw [written, ← Port.read?_eq_some_iff]
    decide
  have settled : configuration.port "h".toList = .ok 22 := (resolved.written rfl 22).mpr ⟨numeral, by decide⟩
  exact ⟨configuration, built, written, settled, (resolved.named "PORT".toList rfl 22 (by decide)).mpr settled⟩

end Configuration

end SecureShell
