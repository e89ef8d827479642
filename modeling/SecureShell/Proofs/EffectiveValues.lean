/-
Module: SecureShell.Proofs.EffectiveValues
Purpose: What a built configuration gives for a host. The latest preference of the caller goes before everything that
  the sources say, the first setting of the sources that answers goes before the built-in value, and a host is its own
  name where nothing else names it. A proxy command goes before a jump host, and the word none stands for no proxy.
Main exports: preferredUser, preferredHostname, Configuration.user_resolved, Configuration.hostname_resolved,
  NamesProxy, Configuration.proxy_resolved
-/
import SecureShell.Proofs.IdentityScope
import SecureShell.Proofs.PortResolution

namespace SecureShell

/-! ### Preferred names -/

/-- The user that a preference asks for. -/
def Preference.user? : Preference → Option Text
  | .user name => some name
  | _ => none

/-- The latest preference for the user. -/
def preferredUser (preferences : List Preference) : Option Text :=
  (preferences.filterMap Preference.user?).getLast?

/-- The name of a host that a preference asks for. -/
def Preference.hostname? : Preference → Option Text
  | .hostname name => some name
  | _ => none

/-- The latest preference for the name of a host. -/
def preferredHostname (preferences : List Preference) : Option Text :=
  (preferences.filterMap Preference.hostname?).getLast?

theorem said_user (files : FileSystem) (directory home : Path) (preferences : List Preference) :
    said files directory home .user preferences = preferences.filterMap Preference.user? := by
  apply List.filterMap_congr
  intro preference _
  cases preference <;> simp [Preference.subject, Preference.content, Preference.user?]

theorem said_hostname (files : FileSystem) (directory home : Path) (preferences : List Preference) :
    said files directory home .hostname preferences = preferences.filterMap Preference.hostname? := by
  apply List.filterMap_congr
  intro preference _
  cases preference <;> simp [Preference.subject, Preference.content, Preference.hostname?]

namespace Configuration

variable {files : FileSystem} {environment : Environment} {preferences : List Preference}
  {configuration : Configuration} {host : Text}

/-- The settings of a built configuration hold the preferred names. -/
theorem overrides_of_build (built : build files environment preferences = .ok configuration) :
    configuration.settings.overrides.user = preferredUser preferences ∧
      configuration.settings.overrides.hostname = preferredHostname preferences := by
  obtain ⟨sources, home, directory, summed⟩ := sum_of_build built
  rw [summed]
  constructor
  · simp only [Settings.sum, Settings.sum.about, Settings.initial, said_user, preferredUser, Option.or_none]
  · simp only [Settings.sum, Settings.sum.about, Settings.initial, said_hostname, preferredHostname, Option.or_none]

/-! ### The user and the name of a host -/

/-- What the store of a built configuration has for a keyword answers the question for it, in letters of any case. -/
theorem answerTo_of_build (built : build files environment preferences = .ok configuration) {keyword other : Text}
    (same : Text.SameLetters keyword other) (host : Text) :
    configuration.store.AnswerTo host keyword (configuration.store.getWithBase host other) := by
  rw [Store.answerTo_iff (valued_of_build built), Store.getWithBase_congr same]

/-- The user is the one preferred last, or else what the sources answer. -/
theorem user_resolved (built : build files environment preferences = .ok configuration) (host : Text) :
    (∀ name, preferredUser preferences = some name → configuration.user host = name) ∧
      (preferredUser preferences = none →
        ∃ base, configuration.store.AnswerTo host "user".toList (configuration.user host, base)) := by
  have override := (overrides_of_build built).1
  refine ⟨fun name preferred => ?_, fun free => ?_⟩
  · rw [user, override, preferred, Option.getD_some]
  · rw [user, override, free, Option.getD_none]
    exact ⟨_, answerTo_of_build built (show Text.SameLetters "user".toList "User".toList by decide) host⟩

/-- The name to connect to is the one preferred last, or else what the sources answer, unless that is empty; then the
host is its own name. -/
theorem hostname_resolved (built : build files environment preferences = .ok configuration) (host : Text) :
    (∀ name, preferredHostname preferences = some name → configuration.hostname host = name) ∧
      (preferredHostname preferences = none →
        ∃ name base, configuration.store.AnswerTo host "hostname".toList (name, base) ∧
          configuration.hostname host = if name = [] then host else name) := by
  have override := (overrides_of_build built).2
  refine ⟨fun name preferred => ?_, fun free => ?_⟩
  · rw [hostname, override, preferred]
  · rw [hostname, override, free]
    exact ⟨_, _, answerTo_of_build built (show Text.SameLetters "hostname".toList "Hostname".toList by decide) host,
      rfl⟩

/-! ### The proxy -/

/-- A value that names a proxy: it is not empty, and it is not the word none in letters of any case. -/
def NamesProxy (value : Text) : Prop :=
  value ≠ [] ∧ ¬ Text.SameLetters value "none".toList

theorem isProxySet_iff {value : Text} : isProxySet value = true ↔ NamesProxy value := by
  simp only [isProxySet, NamesProxy, Bool.and_eq_true, decide_eq_true_eq]
  rfl

/-- The proxy is the command that the sources answer if that names one, and else the jump host that they answer if that
names one. Its directory is that of the source which names it. -/
theorem proxy_resolved (built : build files environment preferences = .ok configuration) (host : Text) :
    ∃ command jump, configuration.store.AnswerTo host "proxycommand".toList command ∧
      configuration.store.AnswerTo host "proxyjump".toList jump ∧
      (NamesProxy command.1 → configuration.proxy host = (some (.command command.1), command.2)) ∧
      (¬ NamesProxy command.1 → NamesProxy jump.1 → configuration.proxy host = (some (.jump jump.1), jump.2)) ∧
      (¬ NamesProxy command.1 → ¬ NamesProxy jump.1 → configuration.proxy host = (none, none)) := by
  have command := answerTo_of_build built (show Text.SameLetters "proxycommand".toList "ProxyCommand".toList by decide)
  have jump := answerTo_of_build built (show Text.SameLetters "proxyjump".toList "ProxyJump".toList by decide)
  refine ⟨_, _, command host, jump host, ?_, ?_, ?_⟩
  · intro named
    rw [proxy, if_pos (isProxySet_iff.mpr named)]
  · intro silent named
    rw [proxy, if_neg (isProxySet_iff.not.mpr silent), if_pos (isProxySet_iff.mpr named)]
  · intro silent other
    rw [proxy, if_neg (isProxySet_iff.not.mpr silent), if_neg (isProxySet_iff.not.mpr other)]

end Configuration

end SecureShell
