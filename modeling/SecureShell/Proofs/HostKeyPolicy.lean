/-
Module: SecureShell.Proofs.HostKeyPolicy
Purpose: Which host keys are trusted, told by the lines of the lists instead of by the order in which they are
  read. A line is for a name when it is no comment and has an entry for the name; a list vouches for a key
  when it can be checked, has the key for the name, and no other key of the same kind. A key is trusted
  when there is no list, or some list vouches for it and no list in front reports a change.
Main exports: KnownHosts.LineFor, KnownHosts.Checkable, KnownHosts.Vouches, KnownHosts.ReportsChange,
  KnownHosts.Decides, HostKeyVerifier.FirstUnopened, openHostLists_policy
-/
import SecureShell.Connection.Dialing

namespace SecureShell

namespace KnownHosts

/-! ### Lines and lists as data -/

/-- An entry stands for a name: it is the name, or it hides the name behind a salted digest. -/
inductive StandsFor (name : Text) : (entry : Text) → Prop where
  | shown (plain : ¬ ['|', '1', '|'] <+: name) : StandsFor name name
  | hidden {parts salt code : Text} {rest : List Text} {saltBytes codeBytes : Bytes}
      (cut : Text.segments '|' parts = salt :: code :: rest)
      (saltRead : Base64.decode? salt = some saltBytes)
      (codeRead : Base64.decode? code = some codeBytes)
      (digest : Digest.Sha1.authenticate saltBytes (Text.utf8 name) = codeBytes) :
      StandsFor name ('|' :: '1' :: '|' :: parts)

/-- A line is for a name and has a key in base64. -/
def LineFor (name line encoded : Text) : Prop :=
  line.head? ≠ some '#' ∧
    ∃ names ignored rest, Text.segments ' ' line = names :: ignored :: encoded :: rest ∧
      ∃ entry ∈ Text.segments ',' names, StandsFor name entry

/-- The text of a list has a line for a name with a key. -/
def Holds (name : Text) (key : PublicKey) (content : Text) : Prop :=
  ∃ line ∈ Text.segments '\n' content, ∃ encoded, LineFor name line encoded ∧
    PublicKey.ofBase64? encoded = some key

/-- Every key that the text of a list has for a name can be read. -/
def Sound (name content : Text) : Prop :=
  ∀ line ∈ Text.segments '\n' content, ∀ encoded, LineFor name line encoded →
    PublicKey.ofBase64? encoded ≠ none

/-- A file is a list that can be checked for a name, with the text that it has. -/
def Checkable (files : FileSystem) (name : Text) (path : Path) (content : Text) : Prop :=
  files.readText path = .ok content ∧ Sound name content

/-- A list has a key for a name, and no other key of the same kind. -/
def Vouches (files : FileSystem) (name : Text) (key : PublicKey) (path : Path) : Prop :=
  ∃ content, Checkable files name path content ∧ Holds name key content ∧
    ∀ other, Holds name other content → other.algorithm = key.algorithm → other = key

/-- A list has a different key of the same kind for a name. -/
def ReportsChange (files : FileSystem) (name : Text) (key : PublicKey) (path : Path) : Prop :=
  ∃ content, Checkable files name path content ∧
    ∃ other, Holds name other content ∧ other.algorithm = key.algorithm ∧ other ≠ key

/-! ### What a line says -/

theorem entryIs_iff (name entry : Text) : entryIs name entry = true ↔ StandsFor name entry := by
  constructor
  · intro stands
    unfold entryIs at stands
    split at stands
    · unfold hiddenNameIs at stands
      split at stands
      · next cut =>
        split at stands
        · next saltRead codeRead =>
          exact .hidden cut saltRead codeRead (by simpa using stands)
        · cases stands
      · cases stands
    · next plain =>
      obtain rfl : entry = name := by simpa using stands
      refine .shown fun marked => ?_
      obtain ⟨parts, whole⟩ := marked
      exact plain parts whole.symm
  · intro stands
    cases stands with
    | shown plain =>
        unfold entryIs
        split
        · next parts => exact absurd ⟨parts, rfl⟩ plain
        · simp
    | hidden cut saltRead codeRead digest =>
        simp [entryIs, hiddenNameIs, cut, saltRead, codeRead, digest]

/-- A line has at most one key for a name. -/
theorem LineFor.encoded_unique {name line encoded other : Text} (one : LineFor name line encoded)
    (two : LineFor name line other) : encoded = other := by
  obtain ⟨_, _, _, _, cut, _⟩ := one
  obtain ⟨_, _, _, _, again, _⟩ := two
  rw [cut] at again
  simp only [List.cons.injEq] at again
  exact again.2.2.1

/-- What a line says whose key is read as given. -/
def LineRecord.ofKey : Option PublicKey → LineRecord
  | some key => .recorded key
  | none => .unreadable

theorem LineRecord.ofKey_injective {one two : Option PublicKey} (same : ofKey one = ofKey two) :
    one = two := by
  cases one <;> cases two <;> simp_all [ofKey]

theorem lineRecord_of_lineFor {name line encoded : Text} (named : LineFor name line encoded) :
    lineRecord name line = .ofKey (PublicKey.ofBase64? encoded) := by
  obtain ⟨content, names, ignored, rest, cut, entry, member, stands⟩ := named
  have found : (Text.segments ',' names).any (entryIs name) = true :=
    List.any_eq_true.mpr ⟨entry, member, (entryIs_iff name entry).mpr stands⟩
  simp only [lineRecord, content, if_false, cut, found, if_true]
  cases PublicKey.ofBase64? encoded <;> rfl

theorem lineRecord_of_unnamed {name line : Text} (unnamed : ¬ ∃ encoded, LineFor name line encoded) :
    lineRecord name line = .silent := by
  unfold lineRecord
  split
  · rfl
  · next content =>
    split
    · next names ignored encoded rest cut =>
      split
      · next found =>
        obtain ⟨entry, member, stands⟩ := List.any_eq_true.mp found
        exact absurd ⟨encoded, content, names, ignored, rest, cut, entry, member,
          (entryIs_iff name entry).mp stands⟩ unnamed
      · rfl
    · rfl

theorem lineRecord_eq_ofKey_iff (name line : Text) (read : Option PublicKey) :
    lineRecord name line = .ofKey read ↔
      ∃ encoded, LineFor name line encoded ∧ PublicKey.ofBase64? encoded = read := by
  by_cases named : ∃ encoded, LineFor name line encoded
  · obtain ⟨encoded, named⟩ := named
    rw [lineRecord_of_lineFor named]
    constructor
    · intro same
      exact ⟨encoded, named, LineRecord.ofKey_injective same⟩
    · rintro ⟨other, again, rfl⟩
      rw [named.encoded_unique again]
  · rw [lineRecord_of_unnamed named]
    constructor
    · intro same
      cases read <;> cases same
    · rintro ⟨encoded, line, _⟩
      exact absurd ⟨encoded, line⟩ named

/-! ### What a list says -/

theorem recordedKeys_eq_none_iff (records : List LineRecord) :
    recordedKeys records = none ↔ .unreadable ∈ records := by
  induction records with
  | nil => simp [recordedKeys]
  | cons record rest ih => cases record <;> simp [recordedKeys, ih]

theorem mem_recordedKeys {records : List LineRecord} {keys : List PublicKey}
    (read : recordedKeys records = some keys) (key : PublicKey) :
    key ∈ keys ↔ .recorded key ∈ records := by
  induction records generalizing keys with
  | nil =>
      cases read
      simp
  | cons record rest ih =>
      cases record with
      | silent => simpa using ih read
      | recorded first =>
          obtain ⟨others, later, rfl⟩ := Option.map_eq_some_iff.mp read
          simp [ih later]
      | unreadable => cases read

/-- The records of a sound text are its keys. -/
theorem recordedKeys_of_sound {name content : Text} (sound : Sound name content) :
    ∃ keys, recordedKeys ((Text.segments '\n' content).map (lineRecord name)) = some keys ∧
      ∀ key, key ∈ keys ↔ Holds name key content := by
  cases read : recordedKeys ((Text.segments '\n' content).map (lineRecord name)) with
  | none =>
      obtain ⟨line, member, unreadable⟩ :=
        List.mem_map.mp ((recordedKeys_eq_none_iff _).mp read)
      obtain ⟨encoded, named, unread⟩ := (lineRecord_eq_ofKey_iff name line none).mp unreadable
      exact absurd unread (sound line member encoded named)
  | some keys =>
      refine ⟨keys, rfl, fun key => ?_⟩
      rw [mem_recordedKeys read, List.mem_map]
      exact exists_congr fun line =>
        and_congr_right fun _ => lineRecord_eq_ofKey_iff name line (some key)

/-- The records of a text that is not sound cannot all be read. -/
theorem recordedKeys_of_unsound {name content : Text} (unsound : ¬ Sound name content) :
    recordedKeys ((Text.segments '\n' content).map (lineRecord name)) = none := by
  refine Classical.byContradiction fun read => unsound fun line member encoded named unread => ?_
  refine read ((recordedKeys_eq_none_iff _).mpr (List.mem_map.mpr ⟨line, member, ?_⟩))
  exact (lineRecord_eq_ofKey_iff name line none).mpr ⟨encoded, named, unread⟩

theorem standingAmong_eq_changed_iff (key : PublicKey) (recorded : List PublicKey) :
    standingAmong key recorded = .changed ↔
      ∃ other ∈ recorded, other.algorithm = key.algorithm ∧ other ≠ key := by
  unfold standingAmong
  split
  · next changed => simpa using changed
  · next same =>
    constructor
    · intro changed
      split at changed <;> cases changed
    · rintro ⟨other, member, kind, different⟩
      refine absurd (List.any_eq_true.mpr ⟨other, member, ?_⟩) same
      simp [kind, different]

theorem standingAmong_eq_listed_iff (key : PublicKey) (recorded : List PublicKey) :
    standingAmong key recorded = .listed ↔
      key ∈ recorded ∧ ∀ other ∈ recorded, other.algorithm = key.algorithm → other = key := by
  constructor
  · intro listed
    have unchanged : ¬ ∃ other ∈ recorded, other.algorithm = key.algorithm ∧ other ≠ key := by
      rw [← standingAmong_eq_changed_iff, listed]
      simp
    constructor
    · unfold standingAmong at listed
      split at listed
      · cases listed
      · split at listed
        · assumption
        · cases listed
    · intro other member kind
      exact Classical.byContradiction fun different =>
        unchanged ⟨other, member, kind, different⟩
  · rintro ⟨member, only⟩
    have unchanged : standingAmong key recorded ≠ .changed := by
      rw [Ne, standingAmong_eq_changed_iff]
      rintro ⟨other, present, kind, different⟩
      exact different (only other present kind)
    unfold standingAmong at unchanged ⊢
    split at unchanged
    · exact absurd rfl unchanged
    · next same => rw [if_neg same, if_pos member]

theorem Checkable.content_unique {files : FileSystem} {name : Text} {path : Path}
    {content other : Text} (one : Checkable files name path content)
    (two : Checkable files name path other) : content = other := by
  have same := one.1.symm.trans two.1
  exact Except.ok.inj same

theorem standing_of_uncheckable {files : FileSystem} {name : Text} {path : Path}
    (uncheckable : ¬ ∃ content, Checkable files name path content) (key : PublicKey) :
    standing files name key path = .unusable := by
  unfold standing
  cases read : files.readText path with
  | error cause => rfl
  | ok content =>
      have unsound : ¬ Sound name content := fun sound => uncheckable ⟨content, read, sound⟩
      simp only [standingIn, recordedKeys_of_unsound unsound]

/-- A list that can be checked stands as the keys do that it has for the name. -/
theorem standing_eq_iff (files : FileSystem) (name : Text) (key : PublicKey) (path : Path)
    {expected : Standing} (usable : expected ≠ .unusable) {told : Text → Prop}
    (among : ∀ content keys, (∀ other, other ∈ keys ↔ Holds name other content) →
      (standingAmong key keys = expected ↔ told content)) :
    standing files name key path = expected ↔
      ∃ content, Checkable files name path content ∧ told content := by
  by_cases checkable : ∃ content, Checkable files name path content
  · obtain ⟨content, checkable⟩ := checkable
    obtain ⟨keys, records, holds⟩ := recordedKeys_of_sound checkable.2
    have stands : standing files name key path = standingAmong key keys := by
      simp only [standing, checkable.1, standingIn, records]
    rw [stands, among content keys holds]
    constructor
    · intro said
      exact ⟨content, checkable, said⟩
    · rintro ⟨other, again, said⟩
      rw [checkable.content_unique again]
      exact said
  · rw [standing_of_uncheckable checkable]
    constructor
    · intro same
      exact absurd same.symm usable
    · rintro ⟨content, again, _⟩
      exact absurd ⟨content, again⟩ checkable

theorem standing_eq_listed_iff (files : FileSystem) (name : Text) (key : PublicKey)
    (path : Path) : standing files name key path = .listed ↔ Vouches files name key path := by
  refine standing_eq_iff files name key path (by simp) fun content keys holds => ?_
  simp only [standingAmong_eq_listed_iff, holds]

theorem standing_eq_changed_iff (files : FileSystem) (name : Text) (key : PublicKey)
    (path : Path) : standing files name key path = .changed ↔ ReportsChange files name key path := by
  refine standing_eq_iff files name key path (by simp) fun content keys holds => ?_
  simp only [standingAmong_eq_changed_iff, holds]

/-! ### What several lists say -/

/-- The first list that settles the matter decides. -/
theorem verdict_map_iff (standingOf : Path → Standing) (lists : List Path) :
    verdict (lists.map standingOf) = true ↔
      ∃ before path after, lists = before ++ path :: after ∧ standingOf path = .listed ∧
        ∀ earlier ∈ before, standingOf earlier ≠ .changed := by
  induction lists with
  | nil => simp [verdict]
  | cons first rest ih =>
      -- a list that settles nothing may be put in front of those in front of the accepting one
      have skipped (unsettled : standingOf first ≠ .listed) (same : standingOf first ≠ .changed) :
          (∃ before path after, rest = before ++ path :: after ∧ standingOf path = .listed ∧
              ∀ earlier ∈ before, standingOf earlier ≠ .changed) ↔
            ∃ before path after, first :: rest = before ++ path :: after ∧
              standingOf path = .listed ∧ ∀ earlier ∈ before, standingOf earlier ≠ .changed := by
        constructor
        · rintro ⟨before, path, after, rfl, listed, unchanged⟩
          refine ⟨first :: before, path, after, rfl, listed, ?_⟩
          intro earlier member
          rcases List.mem_cons.mp member with rfl | member
          · exact same
          · exact unchanged earlier member
        · rintro ⟨before, path, after, split, listed, unchanged⟩
          cases before with
          | nil =>
              cases split
              exact absurd listed unsettled
          | cons head before =>
              cases split
              exact ⟨before, path, after, rfl, listed,
                fun earlier member => unchanged earlier (List.mem_cons_of_mem _ member)⟩
      cases said : standingOf first with
      | listed =>
          simp only [List.map_cons, said, verdict, true_iff]
          exact ⟨[], first, rest, rfl, said, by simp⟩
      | changed =>
          simp only [List.map_cons, said, verdict, Bool.false_eq_true, false_iff]
          rintro ⟨before, path, after, split, listed, unchanged⟩
          cases before with
          | nil =>
              cases split
              rw [said] at listed
              cases listed
          | cons head before =>
              cases split
              exact unchanged first List.mem_cons_self said
      | unlisted =>
          simp only [List.map_cons, said, verdict, ih]
          exact skipped (by simp [said]) (by simp [said])
      | unusable =>
          simp only [List.map_cons, said, verdict, ih]
          exact skipped (by simp [said]) (by simp [said])

end KnownHosts

namespace HostKeyVerifier

/-- A list cannot be opened, and all lists in front of it can. -/
def FirstUnopened (files : FileSystem) (lists : List Path) (path : Path) (cause : SystemError) :
    Prop :=
  ∃ before after, lists = before ++ path :: after ∧ files.opened path = .error cause ∧
    ∀ earlier ∈ before, files.opened earlier = .ok ()

theorem firstUnopened_eq_none {files : FileSystem} {lists : List Path}
    (none : firstUnopened files lists = none) : ∀ path ∈ lists, files.opened path = .ok () := by
  induction lists with
  | nil => simp
  | cons first rest ih =>
      unfold firstUnopened at none
      split at none
      · cases none
      · next opened =>
        intro path member
        rcases List.mem_cons.mp member with rfl | member
        · exact opened
        · exact ih none path member

theorem firstUnopened_eq_some {files : FileSystem} {lists : List Path} {path : Path}
    {cause : SystemError} (found : firstUnopened files lists = some (path, cause)) :
    FirstUnopened files lists path cause := by
  induction lists with
  | nil => cases found
  | cons first rest ih =>
      unfold firstUnopened at found
      split at found
      · next refused =>
        cases found
        exact ⟨[], rest, rfl, refused, by simp⟩
      · next opened =>
        obtain ⟨before, after, rfl, refused, earlier⟩ := ih found
        refine ⟨first :: before, after, rfl, refused, ?_⟩
        intro other member
        rcases List.mem_cons.mp member with rfl | member
        · exact opened
        · exact earlier other member

theorem create_eq_error {files : FileSystem} {host : Text} {port : Port} {lists : List Path}
    {path : Path} {cause : SystemError}
    (refused : create files host port lists = .error (path, cause)) :
    FirstUnopened files lists path cause := by
  unfold create at refused
  split at refused
  · next found =>
    cases refused
    exact firstUnopened_eq_some found
  · cases refused

theorem create_eq_ok {files : FileSystem} {host : Text} {port : Port} {lists : List Path}
    {verifier : HostKeyVerifier} (created : create files host port lists = .ok verifier) :
    verifier = ⟨host, port, if lists = [] then .acceptAny else .knownHosts lists⟩ ∧
      ∀ path ∈ lists, files.opened path = .ok () := by
  unfold create at created
  split at created
  · cases created
  · next none =>
    cases created
    exact ⟨rfl, firstUnopened_eq_none none⟩

/-- A key is trusted without lists, or when some list vouches for it behind lists without a change. -/
theorem trusts_iff {files : FileSystem} {host : Text} {port : Port} {lists : List Path}
    {verifier : HostKeyVerifier} (created : create files host port lists = .ok verifier)
    (key : PublicKey) :
    verifier.trusts files key = true ↔
      lists = [] ∨ ∃ before path after, lists = before ++ path :: after ∧
        KnownHosts.Vouches files (KnownHosts.lookupName host port) key path ∧
          ∀ earlier ∈ before,
            ¬ KnownHosts.ReportsChange files (KnownHosts.lookupName host port) key earlier := by
  obtain ⟨rfl, _⟩ := create_eq_ok created
  by_cases empty : lists = []
  · simp [trusts, empty]
  · simp only [trusts, empty, if_false, KnownHosts.verdict_map_iff,
      KnownHosts.standing_eq_listed_iff, ne_eq, KnownHosts.standing_eq_changed_iff, false_or]

end HostKeyVerifier

namespace KnownHosts

/-- What an answer about a key means when it is drawn from lists. -/
structure Decides (files : FileSystem) (name : Text) (lists : List Path) (key : PublicKey)
    (answer : Bool) : Prop where
  /-- A key is trusted without lists, or when a list vouches for it behind lists without a change. -/
  accepts : answer = true ↔
    lists = [] ∨ ∃ before path after, lists = before ++ path :: after ∧
      Vouches files name key path ∧ ∀ earlier ∈ before, ¬ ReportsChange files name key earlier
  /-- Among lists only one that can be checked and that has the key leads to trust. -/
  recorded : answer = true → lists ≠ [] → ∃ path ∈ lists, ∃ content,
    Checkable files name path content ∧ Holds name key content
  /-- A change outweighs everything behind it. -/
  changed : ∀ before path after, lists = before ++ path :: after →
    ReportsChange files name key path → (∀ earlier ∈ before, ¬ Vouches files name key earlier) →
      answer = false

theorem Vouches.not_reportsChange {files : FileSystem} {name : Text} {key : PublicKey}
    {path : Path} (vouches : Vouches files name key path) :
    ¬ ReportsChange files name key path := by
  rw [← standing_eq_listed_iff] at vouches
  rw [← standing_eq_changed_iff, vouches]
  simp

/-- The other parts of a decision follow from the one about trust. -/
theorem decides_of_accepts {files : FileSystem} {name : Text} {lists : List Path}
    {key : PublicKey} {answer : Bool}
    (accepts : answer = true ↔
      lists = [] ∨ ∃ before path after, lists = before ++ path :: after ∧
        Vouches files name key path ∧ ∀ earlier ∈ before, ¬ ReportsChange files name key earlier) :
    Decides files name lists key answer where
  accepts := accepts
  recorded := by
    intro trusted nonempty
    rcases accepts.mp trusted with empty | ⟨before, path, after, rfl, vouches, _⟩
    · exact absurd empty nonempty
    · obtain ⟨content, checkable, holds, _⟩ := vouches
      exact ⟨path, by simp, content, checkable, holds⟩
  changed := by
    intro before path after split change unvouched
    refine Bool.eq_false_iff.mpr fun trusted => ?_
    rcases accepts.mp trusted with empty | ⟨front, listed, back, again, vouches, unchanged⟩
    · rw [empty] at split
      simp at split
    · rw [again] at split
      -- the vouching list stands behind the changed one, in front of it, or in its place
      rcases List.append_eq_append_iff.mp split with
        ⟨between, rfl, rest⟩ | ⟨between, rfl, rest⟩
      · cases between with
        | nil =>
            obtain ⟨rfl, _⟩ := List.cons.inj rest
            exact vouches.not_reportsChange change
        | cons head between =>
            obtain ⟨rfl, _⟩ := List.cons.inj rest
            exact unvouched listed (by simp) vouches
      · cases between with
        | nil =>
            obtain ⟨rfl, _⟩ := List.cons.inj rest
            exact vouches.not_reportsChange change
        | cons head between =>
            obtain ⟨rfl, _⟩ := List.cons.inj rest
            exact unchanged path (by simp) change

end KnownHosts

/-- Opening the lists of a destination fails with the first one that cannot be opened; otherwise the lists
decide about every key under the name of the destination, which is the host itself behind the port 22, and
the host in brackets with the port in decimal digits behind any other port. -/
theorem openHostLists_policy {σ : Type} (around : Surroundings σ) (destination : Destination)
    (state : σ) :
    let name :=
      if destination.port = 22 then destination.hostname
      else "[".toList ++ destination.hostname ++ "]:".toList
        ++ Nat.toDigits 10 destination.port.toNat
    match (openHostLists around destination state).result with
    | .error failure => ∃ path cause, failure = .unopenedKnownHosts path cause ∧
        HostKeyVerifier.FirstUnopened around.files destination.knownHosts path cause
    | .ok verifier => (∀ path ∈ destination.knownHosts, around.files.opened path = .ok ()) ∧
        ∀ key, KnownHosts.Decides around.files name destination.knownHosts key
          (verifier.trusts around.files key) := by
  intro name
  have looked : KnownHosts.lookupName destination.hostname destination.port = name := by
    by_cases usual : destination.port = 22
    · simp only [name, usual, if_true, KnownHosts.lookupName_defaultPort]
    · simp only [name, usual, if_false, KnownHosts.lookupName_otherPort _ usual]
  unfold openHostLists
  cases created : HostKeyVerifier.create around.files destination.hostname destination.port
      destination.knownHosts with
  | error refusal =>
      exact ⟨refusal.1, refusal.2, rfl, HostKeyVerifier.create_eq_error created⟩
  | ok verifier =>
      refine ⟨(HostKeyVerifier.create_eq_ok created).2, fun key => ?_⟩
      rw [← looked]
      exact KnownHosts.decides_of_accepts (HostKeyVerifier.trusts_iff created key)

end SecureShell
