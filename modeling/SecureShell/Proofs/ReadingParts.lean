/-
Module: SecureShell.Proofs.ReadingParts
Purpose: A text is read in parts. What a line gives, once it is read, depends neither on the file that it stands in
  nor on its number nor on how many levels of includes are left. So the items of a text are those of its parts one
  after the other, and a text has the same document at every level at which it is read. Looking a keyword up in a
  document is going through its items; all that one part hands on to the next is whether the open block selects
  the host.
Main exports: Covers, Yields, readLines_eq_ok_iff, Yields.unique, yields_append_iff, readAt_unique,
  Document.parse_eq_ok_iff, Document.search, Document.selectedBehind, Document.get_ofItems, Document.search_append
-/
import SecureShell.Proofs.ReadingOrder

namespace SecureShell

theorem exists_eq_ok_of_isOk {ε α : Type} {result : Except ε α} (succeeds : result.isOk = true) :
    ∃ value, result = .ok value := by
  cases result with
  | error failure => cases succeeds
  | ok value => exact ⟨value, rfl⟩

variable {files : FileSystem} {home : Path}

/-! ### What a line gives -/

/-- Members that give a result keep it when they are treated in another way that keeps every result. -/
theorem mapM_of_kept {ε α β : Type} {step other : α → Except ε β}
    (kept : ∀ item result, step item = .ok result → other item = .ok result) {items : List α}
    {results : List β} (all : items.mapM step = .ok results) : items.mapM other = .ok results := by
  induction items generalizing results with
  | nil => exact all
  | cons item rest ih =>
      obtain ⟨result, later, first, behind, rfl⟩ := exists_of_mapM_cons all
      rw [mapM_cons_of_ok (kept item result first), ih behind]
      rfl

/-- Whatever is read with the one reader of included texts is read with the other, and alike. -/
def Covers (reader wider : Option TextReader) : Prop :=
  ∀ nested, reader = some nested → ∃ other, wider = some other ∧
    ∀ content path document, nested content path = .ok document → other content path = .ok document

theorem Covers.refl (reader : Option TextReader) : Covers reader reader :=
  fun nested same => ⟨nested, same, fun _ _ _ read => read⟩

theorem Covers.trans {first second third : Option TextReader} (one : Covers first second)
    (two : Covers second third) : Covers first third := by
  intro nested same
  obtain ⟨other, again, keeps⟩ := one nested same
  obtain ⟨last, found, keepsAgain⟩ := two other again
  exact ⟨last, found, fun content path document read =>
    keepsAgain content path document (keeps content path document read)⟩

theorem readTarget_covered {nested other : TextReader}
    (keeps : ∀ content path document, nested content path = .ok document → other content path = .ok document)
    {origin : Path} {line : Nat} {target : Text} {entry : Option ConfigEntry}
    (read : readTarget files home nested origin line target = .ok entry) (place : Path) (number : Nat) :
    readTarget files home other place number target = .ok entry := by
  simp only [readTarget] at read ⊢
  split at read
  · exact read
  · cases read
  · next content held =>
    cases decoded : nested content (includePath home target) with
    | error failure => simp [decoded] at read
    | ok document =>
        rw [decoded] at read
        rw [keeps _ _ _ decoded]
        exact read

theorem readInclude_covered {reader wider : Option TextReader} (covers : Covers reader wider) {origin : Path}
    {line : Nat} {targets : List Text} {entries : List ConfigEntry}
    (read : readInclude files home reader origin line targets = .ok entries) (place : Path) (number : Nat) :
    readInclude files home wider place number targets = .ok entries := by
  cases reader with
  | none => cases read
  | some nested =>
      obtain ⟨other, rfl, keeps⟩ := covers nested rfl
      rw [readInclude] at read ⊢
      cases all : targets.mapM (readTarget files home nested origin line) with
      | error failure => simp [all, bind, Except.bind] at read
      | ok found =>
          rw [mapM_of_kept (fun _ _ given => readTarget_covered keeps given place number) all]
          rw [all] at read
          exact read

/-- A line that is read gives the same items in every place and with every reader that covers the one at hand. -/
theorem itemsOfLine_covered {reader wider : Option TextReader} (covers : Covers reader wider) {origin : Path}
    {line : Text} {number : Nat} {items : List Item}
    (read : itemsOfLine files home reader origin (line, number) = .ok items) (place : Path) (count : Nat) :
    itemsOfLine files home wider place (line, count) = .ok items := by
  unfold itemsOfLine at read ⊢
  split at read
  · cases read
  · next silent => simpa [silent] using read
  · next patterns said => simpa [said] using read
  · next keyword value said => simpa [said] using read
  · next targets said =>
    cases included : readInclude files home reader origin number targets with
    | error failure => simp [included, Except.map] at read
    | ok entries =>
        rw [included] at read
        simp only [said, readInclude_covered covers included place count]
        exact read

/-! ### What lines give -/

/-- The items that lines give, whatever the places of the lines are. -/
inductive Yields (files : FileSystem) (home : Path) (reader : Option TextReader) :
    List Text → List Item → Prop where
  | nil : Yields files home reader [] []
  | cons {line : Text} {rest : List Text} {items later : List Item} {origin : Path} {number : Nat}
      (first : itemsOfLine files home reader origin (line, number) = .ok items)
      (behind : Yields files home reader rest later) : Yields files home reader (line :: rest) (items ++ later)

variable {reader : Option TextReader}

theorem yields_of_mapM {origin : Path} {lines : List Text} {start : Nat} {parts : List (List Item)}
    (all : (lines.zipIdx start).mapM (itemsOfLine files home reader origin) = .ok parts) :
    Yields files home reader lines parts.flatten := by
  induction lines generalizing start parts with
  | nil =>
      cases all
      exact .nil
  | cons line rest ih =>
      obtain ⟨items, later, first, behind, rfl⟩ := exists_of_mapM_cons all
      exact .cons first (ih behind)

theorem Yields.exists_mapM {lines : List Text} {items : List Item} (yields : Yields files home reader lines items)
    (origin : Path) (start : Nat) :
    ∃ parts, (lines.zipIdx start).mapM (itemsOfLine files home reader origin) = .ok parts ∧
      parts.flatten = items := by
  induction yields generalizing start with
  | nil => exact ⟨[], rfl, rfl⟩
  | cons first behind ih =>
      obtain ⟨parts, all, rfl⟩ := ih (start + 1)
      refine ⟨_ :: parts, ?_, rfl⟩
      rw [List.zipIdx_cons, mapM_cons_of_ok (itemsOfLine_covered (Covers.refl reader) first origin start), all]
      rfl

/-- A text has a document exactly if its lines give items, and then it is the document of these. -/
theorem readLines_eq_ok_iff {text : Text} {origin : Path} {document : Document} :
    readLines files home reader text origin = .ok document ↔
      ∃ items, Yields files home reader (Text.lines text) items ∧ document = Document.ofItems items := by
  constructor
  · intro read
    obtain ⟨parts, all, rfl⟩ := readLines_eq_ok read
    exact ⟨parts.flatten, yields_of_mapM all, rfl⟩
  · rintro ⟨items, yields, rfl⟩
    obtain ⟨parts, all, rfl⟩ := yields.exists_mapM origin 1
    rw [readLines, all]
    rfl

theorem Yields.covered {wider : Option TextReader} (covers : Covers reader wider) {lines : List Text}
    {items : List Item} (yields : Yields files home reader lines items) :
    Yields files home wider lines items := by
  induction yields with
  | nil => exact .nil
  | @cons _ _ _ _ origin number first _ ih => exact .cons (itemsOfLine_covered covers first origin number) ih

/-- Lines give one row of items only. -/
theorem Yields.unique {lines : List Text} {items other : List Item} (one : Yields files home reader lines items)
    (two : Yields files home reader lines other) : items = other := by
  induction one generalizing other with
  | nil =>
      cases two
      rfl
  | @cons _ _ _ _ origin number first _ ih =>
      cases two with
      | cons again behind =>
          have same := itemsOfLine_covered (Covers.refl reader) again origin number
          rw [Except.ok.inj (first.symm.trans same), ih behind]

/-- Two lots of lines give their items one after the other. -/
theorem yields_append_iff {front back : List Text} {items : List Item} :
    Yields files home reader (front ++ back) items ↔
      ∃ first second, Yields files home reader front first ∧ Yields files home reader back second ∧
        items = first ++ second := by
  constructor
  · intro yields
    induction front generalizing items with
    | nil => exact ⟨[], items, .nil, yields, rfl⟩
    | cons line front ih =>
        cases yields with
        | cons first behind =>
            obtain ⟨one, two, before, after, rfl⟩ := ih behind
            exact ⟨_, two, .cons first before, after, (List.append_assoc ..).symm⟩
  · rintro ⟨first, second, before, after, rfl⟩
    induction before with
    | nil => exact after
    | cons head _ ih =>
        rw [List.append_assoc]
        exact .cons head ih

/-! ### The level of a text -/

/-- The reader for what a text includes that may have `levels` levels below it. -/
def deeper? (files : FileSystem) (home : Path) : (levels : Nat) → Option TextReader
  | 0 => none
  | levels + 1 => some (readAt files home levels)

theorem readAt_eq (files : FileSystem) (home : Path) (levels : Nat) :
    readAt files home levels = readLines files home (deeper? files home levels) := by
  cases levels <;> rfl

theorem covers_succ (files : FileSystem) (home : Path) (levels : Nat) :
    Covers (deeper? files home levels) (deeper? files home (levels + 1)) := by
  induction levels with
  | zero => exact fun nested same => nomatch same
  | succ levels ih =>
      intro nested same
      obtain rfl : readAt files home levels = nested := Option.some.inj same
      refine ⟨_, rfl, fun content path document read => ?_⟩
      rw [readAt_eq, readLines_eq_ok_iff] at read ⊢
      obtain ⟨items, yields, rfl⟩ := read
      exact ⟨items, yields.covered ih, rfl⟩

theorem covers_of_le {levels more : Nat} (fewer : levels ≤ more) :
    Covers (deeper? files home levels) (deeper? files home more) := by
  induction fewer with
  | refl => exact Covers.refl _
  | step _ ih => exact ih.trans (covers_succ files home _)

/-- A text that is read at two levels has the same document there. -/
theorem readAt_unique {levels more : Nat} {text : Text} {origin place : Path} {document other : Document}
    (one : readAt files home levels text origin = .ok document)
    (two : readAt files home more text place = .ok other) : document = other := by
  rw [readAt_eq, readLines_eq_ok_iff] at one two
  obtain ⟨items, yields, rfl⟩ := one
  obtain ⟨again, yieldsAgain, rfl⟩ := two
  have same := (yields.covered (covers_of_le (Nat.le_max_left levels more))).unique
    (yieldsAgain.covered (covers_of_le (Nat.le_max_right levels more)))
  rw [same]

/-- A text has a document exactly if its lines give items at the outermost level. -/
theorem Document.parse_eq_ok_iff {text : Text} {origin : Path} {document : Document} :
    Document.parse files text origin home = .ok document ↔
      ∃ items, Yields files home (deeper? files home includeLimit) (Text.lines text) items ∧
        document = Document.ofItems items := by
  rw [Document.parse, readAt_eq, readLines_eq_ok_iff]

/-! ### Looking up in a row of items -/

namespace Document

/-- The first value for a keyword in items, of which those that come before the first block beginning stand in a
block that selects the host or in one that does not. -/
def search (host keyword : Text) (selected : Bool) : List Item → Option Text
  | [] => none
  | .entry entry :: rest =>
      (if selected then findInEntry host keyword entry else none).or (search host keyword selected rest)
  | .opening patterns :: rest => search host keyword (HostPattern.selects patterns host) rest

/-- Whether the block that is open behind items selects the host. -/
def selectedBehind (host : Text) (selected : Bool) : List Item → Bool
  | [] => selected
  | .entry _ :: rest => selectedBehind host selected rest
  | .opening patterns :: rest => selectedBehind host (HostPattern.selects patterns host) rest

theorem search_grouped (host keyword : Text) (selected : Bool) (items : List Item) :
    search host keyword selected items =
      (if selected then findInEntries host keyword (grouped items).1 else none).or
        (findInBlocks host keyword (grouped items).2) := by
  induction items generalizing selected with
  | nil => cases selected <;> rfl
  | cons item rest ih =>
      cases item with
      | entry entry =>
          rw [search, ih]
          cases selected <;> simp [grouped, findInEntries, Option.or_assoc]
      | opening patterns =>
          rw [search, ih]
          cases selected <;> simp [grouped, findInEntries, findInBlocks, findInBlock]

/-- Looking up in the document of items is going through the items. -/
theorem get_ofItems (host keyword : Text) (items : List Item) :
    (ofItems items).get host keyword = search host keyword (HostPattern.selects [.any] host) items := by
  rw [search_grouped, get, ofItems, findInBlocks, findInBlock]

/-- The second part of a row is looked up behind what the first part leaves open. -/
theorem search_append (host keyword : Text) (selected : Bool) (front back : List Item) :
    search host keyword selected (front ++ back) =
      (search host keyword selected front).or
        (search host keyword (selectedBehind host selected front) back) := by
  induction front generalizing selected with
  | nil => rfl
  | cons item front ih =>
      cases item with
      | entry entry => simp only [List.cons_append, search, selectedBehind, ih, Option.or_assoc]
      | opening patterns => simp only [List.cons_append, search, selectedBehind, ih]

end Document

end SecureShell
