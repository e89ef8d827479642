/-
Module: SecureShell.Proofs.ReadingOrder
Purpose: Reading goes through lines and through the targets of an include line in order and ends at the first
  that fails. A list whose members may fail gives its results exactly when all members do, and otherwise the
  failure of the first member that fails; the laws for a text and for an include line are instances of that.
Main exports: mapM_eq_ok_iff, mapM_eq_error_iff, exists_mapM_eq_ok_iff, mapM_congr, exists_of_mem_mapM,
  readLines_eq_error_iff, exists_readLines_eq_ok_iff, readLines_eq_ok, readLines_of_said,
  exists_items_of_readLines, readAt_induction, itemsOfLine_entry_cases, patterns_of_opening
-/
import Mathlib.Data.List.Forall2
import SecureShell.Config.Reading

namespace SecureShell

section Ordered

variable {ε α β : Type} {step : α → Except ε β}

theorem mapM_cons_of_ok {item : α} {rest : List α} {result : β} (first : step item = .ok result) :
    (item :: rest).mapM step = (rest.mapM step).map (result :: ·) := by
  rw [List.mapM_cons, first]
  rfl

theorem mapM_cons_of_error {item : α} {rest : List α} {failure : ε}
    (first : step item = .error failure) : (item :: rest).mapM step = .error failure := by
  rw [List.mapM_cons, first]
  rfl

/-- All results are that of the first member and those of the rest. -/
theorem exists_of_mapM_cons {item : α} {rest : List α} {results : List β}
    (all : (item :: rest).mapM step = .ok results) :
    ∃ result others, step item = .ok result ∧ rest.mapM step = .ok others ∧ results = result :: others := by
  cases first : step item with
  | error failure => simp [mapM_cons_of_error first] at all
  | ok result =>
      rw [mapM_cons_of_ok first] at all
      cases later : rest.mapM step with
      | error failure => simp [later, Except.map] at all
      | ok others => exact ⟨result, others, rfl, rfl, by simpa [later, Except.map] using all.symm⟩

/-- All results are had exactly when every member gives one. -/
theorem exists_mapM_eq_ok_iff (step : α → Except ε β) (items : List α) :
    (∃ results, items.mapM step = .ok results) ↔ ∀ item ∈ items, ∃ result, step item = .ok result := by
  induction items with
  | nil => simp [pure, Except.pure]
  | cons item rest ih =>
      cases first : step item with
      | error failure => simp [mapM_cons_of_error first, first]
      | ok result =>
          rw [mapM_cons_of_ok first]
          simp only [List.forall_mem_cons, first, Except.ok.injEq, exists_eq', true_and, ← ih]
          cases rest.mapM step <;> simp [Except.map]

/-- All results are had exactly if each member gives the one in its place. -/
theorem mapM_eq_ok_iff (step : α → Except ε β) (items : List α) (results : List β) :
    items.mapM step = .ok results ↔ List.Forall₂ (fun item result => step item = .ok result) items results := by
  induction items generalizing results with
  | nil =>
      constructor
      · rintro ⟨⟩
        exact .nil
      · rintro ⟨⟩
        rfl
  | cons item rest ih =>
      constructor
      · intro all
        obtain ⟨result, others, first, later, rfl⟩ := exists_of_mapM_cons all
        exact .cons first ((ih others).mp later)
      · intro each
        cases each with
        | cons first later =>
            rw [mapM_cons_of_ok first, (ih _).mpr later]
            rfl

/-- The failure is that of the first member that fails. -/
theorem mapM_eq_error_iff (step : α → Except ε β) (items : List α) (failure : ε) :
    items.mapM step = .error failure ↔
      ∃ before item after, items = before ++ item :: after ∧
        (∀ earlier ∈ before, ∃ result, step earlier = .ok result) ∧ step item = .error failure := by
  induction items with
  | nil => simp [pure, Except.pure]
  | cons item rest ih =>
      cases first : step item with
      | error other =>
          rw [mapM_cons_of_error first]
          constructor
          · intro same
            exact ⟨[], item, rest, rfl, by simp, first.trans (by simpa using same)⟩
          · rintro ⟨before, found, after, split, earlier, failed⟩
            cases before with
            | nil =>
                obtain ⟨rfl, _⟩ := List.cons.inj split
                rw [first] at failed
                simpa using failed
            | cons head before =>
                obtain ⟨rfl, _⟩ := List.cons.inj split
                obtain ⟨result, passed⟩ := earlier item List.mem_cons_self
                simp [first] at passed
      | ok result =>
          have later : (item :: rest).mapM step = .error failure ↔ rest.mapM step = .error failure := by
            rw [mapM_cons_of_ok first]
            cases rest.mapM step <;> simp [Except.map]
          rw [later, ih]
          constructor
          · rintro ⟨before, found, after, rfl, earlier, failed⟩
            refine ⟨item :: before, found, after, rfl, ?_, failed⟩
            intro member present
            rcases List.mem_cons.mp present with rfl | present
            · exact ⟨result, first⟩
            · exact earlier member present
          · rintro ⟨before, found, after, split, earlier, failed⟩
            cases before with
            | nil =>
                obtain ⟨rfl, _⟩ := List.cons.inj split
                simp [first] at failed
            | cons head before =>
                obtain ⟨rfl, rfl⟩ := List.cons.inj split
                exact ⟨before, found, after, rfl,
                  fun member present => earlier member (List.mem_cons_of_mem _ present), failed⟩

/-- Two ways of treating the members of a list that agree on them give the same results. -/
theorem mapM_congr {other : α → Except ε β} {items : List α}
    (same : ∀ item ∈ items, step item = other item) : items.mapM step = items.mapM other := by
  induction items with
  | nil => rfl
  | cons item rest ih =>
      rw [List.mapM_cons, List.mapM_cons, same item List.mem_cons_self,
        ih fun later member => same later (List.mem_cons_of_mem _ member)]

/-- Every result comes from a member. -/
theorem exists_of_mem_mapM {items : List α} {results : List β} (all : items.mapM step = .ok results)
    {result : β} (member : result ∈ results) : ∃ item ∈ items, step item = .ok result := by
  induction items generalizing results with
  | nil =>
      cases all
      cases member
  | cons item rest ih =>
      obtain ⟨head, others, first, later, rfl⟩ := exists_of_mapM_cons all
      rcases List.mem_cons.mp member with rfl | member
      · exact ⟨item, List.mem_cons_self, first⟩
      · obtain ⟨source, present, gives⟩ := ih later member
        exact ⟨source, List.mem_cons_of_mem _ present, gives⟩

/-- Every member gives a result. -/
theorem exists_mem_of_mapM {items : List α} {results : List β} (all : items.mapM step = .ok results)
    {item : α} (member : item ∈ items) : ∃ result ∈ results, step item = .ok result := by
  induction items generalizing results with
  | nil => cases member
  | cons head rest ih =>
      obtain ⟨result, others, first, later, rfl⟩ := exists_of_mapM_cons all
      rcases List.mem_cons.mp member with rfl | member
      · exact ⟨result, List.mem_cons_self, first⟩
      · obtain ⟨found, present, gives⟩ := ih later member
        exact ⟨found, List.mem_cons_of_mem _ present, gives⟩

end Ordered

variable {files : FileSystem} {home : Path} {nested : Option TextReader} {text : Text} {origin : Path}

/-- Every line has a number. -/
theorem exists_mem_zipIdx {line : Text} {lines : List Text} (member : line ∈ lines) (start : Nat) :
    ∃ number, (line, number) ∈ lines.zipIdx start := by
  rw [← List.zipIdx_map_fst start lines, List.mem_map] at member
  obtain ⟨⟨other, number⟩, present, rfl⟩ := member
  exact ⟨number, present⟩

/-- A text is read exactly when each of its lines is. -/
theorem exists_readLines_eq_ok_iff (files : FileSystem) (home : Path) (nested : Option TextReader)
    (text : Text) (origin : Path) :
    (∃ document, readLines files home nested text origin = .ok document) ↔
      ∀ numbered ∈ (Text.lines text).zipIdx 1,
        ∃ items, itemsOfLine files home nested origin numbered = .ok items := by
  rw [← exists_mapM_eq_ok_iff]
  unfold readLines
  cases ((Text.lines text).zipIdx 1).mapM (itemsOfLine files home nested origin) <;>
    simp [bind, Except.bind, pure, Except.pure]

/-- The document of a text is that of the items of its lines. -/
theorem readLines_eq_ok {document : Document}
    (read : readLines files home nested text origin = .ok document) :
    ∃ parts, ((Text.lines text).zipIdx 1).mapM (itemsOfLine files home nested origin) = .ok parts ∧
      document = Document.ofItems parts.flatten := by
  unfold readLines at read
  cases all : ((Text.lines text).zipIdx 1).mapM (itemsOfLine files home nested origin) with
  | error failure => simp [all, bind, Except.bind] at read
  | ok parts =>
      refine ⟨parts, rfl, ?_⟩
      simpa [all, bind, Except.bind, pure, Except.pure] using read.symm

/-- What a line gives depends on nothing but what it says. -/
theorem itemsOfLine_congr {line other : Text} (same : Directive.ofLine line = Directive.ofLine other) (number : Nat) :
    itemsOfLine files home nested origin (line, number) = itemsOfLine files home nested origin (other, number) := by
  simp only [itemsOfLine, same]

theorem mapM_itemsOfLine_congr {lines others : List Text}
    (same : lines.map Directive.ofLine = others.map Directive.ofLine) (start : Nat) :
    (lines.zipIdx start).mapM (itemsOfLine files home nested origin)
      = (others.zipIdx start).mapM (itemsOfLine files home nested origin) := by
  induction lines generalizing others start with
  | nil =>
      obtain rfl := List.map_eq_nil_iff.mp same.symm
      rfl
  | cons line lines ih =>
      obtain ⟨other, others, rfl, first, later⟩ := List.map_eq_cons_iff.mp same.symm
      rw [List.zipIdx_cons, List.zipIdx_cons, List.mapM_cons, List.mapM_cons, itemsOfLine_congr first.symm,
        ih later.symm]

/-- Two texts whose lines say the same are read alike, with the same document or the same failure. -/
theorem readLines_of_said {other : Text}
    (same : (Text.lines text).map Directive.ofLine = (Text.lines other).map Directive.ofLine) :
    readLines files home nested text origin = readLines files home nested other origin := by
  rw [readLines, readLines, mapM_itemsOfLine_congr same]

/-- Every item of a document that is read is given by a line of its text. -/
theorem exists_items_of_readLines {document : Document}
    (read : readLines files home nested text origin = .ok document) :
    ∃ items, document = Document.ofItems items ∧ ∀ item ∈ items, ∃ line ∈ Text.lines text, ∃ number given,
      itemsOfLine files home nested origin (line, number) = .ok given ∧ item ∈ given := by
  obtain ⟨parts, lines, rfl⟩ := readLines_eq_ok read
  refine ⟨parts.flatten, rfl, ?_⟩
  intro item member
  obtain ⟨given, part, within⟩ := List.mem_flatten.mp member
  obtain ⟨⟨line, number⟩, numbered, gives⟩ := exists_of_mem_mapM lines part
  exact ⟨line, List.fst_mem_of_mem_zipIdx numbered, number, given, gives, within⟩

/-- A property that the document of a text has whenever all documents that the text includes have it is a property of
every document that is read. -/
theorem readAt_induction {P : Document → Prop}
    (step : ∀ nested text origin document, readLines files home nested text origin = .ok document →
      (∀ reader, nested = some reader → ∀ content path included,
        reader content path = .ok included → P included) → P document)
    {levels : Nat} {document : Document} (read : readAt files home levels text origin = .ok document) :
    P document := by
  induction levels generalizing text origin document with
  | zero => exact step none text origin document read (fun reader same => nomatch same)
  | succ levels ih =>
      apply step _ text origin document read
      intro reader same content path included decoded
      obtain rfl := Option.some.inj same
      exact ih decoded

/-- A text fails with the failure of the first line that fails; the first line is line one. -/
theorem readLines_eq_error_iff (files : FileSystem) (home : Path) (nested : Option TextReader)
    (text : Text) (origin : Path) (failure : SyntaxError) :
    readLines files home nested text origin = .error failure ↔
      ∃ before line after, Text.lines text = before ++ line :: after ∧
        (∀ numbered ∈ before.zipIdx 1,
          ∃ items, itemsOfLine files home nested origin numbered = .ok items) ∧
        itemsOfLine files home nested origin (line, before.length + 1) = .error failure := by
  have outer : readLines files home nested text origin = .error failure ↔
      ((Text.lines text).zipIdx 1).mapM (itemsOfLine files home nested origin) = .error failure := by
    unfold readLines
    cases ((Text.lines text).zipIdx 1).mapM (itemsOfLine files home nested origin) <;>
      simp [bind, Except.bind, pure, Except.pure]
  rw [outer, mapM_eq_error_iff]
  constructor
  · rintro ⟨front, numbered, back, split, earlier, failed⟩
    obtain ⟨before, rest, whole, rfl, later⟩ := List.zipIdx_eq_append_iff.mp split
    obtain ⟨line, after, rfl, rfl, _⟩ := List.zipIdx_eq_cons_iff.mp later.symm
    rw [Nat.add_comm] at failed
    exact ⟨before, line, after, whole, earlier, failed⟩
  · rintro ⟨before, line, after, whole, earlier, failed⟩
    refine ⟨before.zipIdx 1, (line, before.length + 1), after.zipIdx (before.length + 2), ?_, earlier,
      failed⟩
    rw [whole, List.zipIdx_append, List.zipIdx_cons, Nat.add_comm 1]

/-- A target that gives an entry names a text whose document the entry is. -/
theorem readTarget_eq_ok_some {reader : TextReader} {line : Nat} {target : Text} {entry : ConfigEntry}
    (read : readTarget files home reader origin line target = .ok (some entry)) :
    ∃ content document, files.readText (includePath home target) = .ok content ∧
      reader content (includePath home target) = .ok document ∧ entry = .included document.blocks := by
  simp only [readTarget] at read
  split at read
  · cases read
  · cases read
  · next content held =>
    split at read
    · cases read
    · next document decoded =>
      cases read
      exact ⟨content, document, held, decoded, rfl⟩

/-- An entry of an include line is that of one of its targets. -/
theorem readInclude_mem {line : Nat} {targets : List Text} {entries : List ConfigEntry}
    (read : readInclude files home nested origin line targets = .ok entries) {entry : ConfigEntry}
    (member : entry ∈ entries) :
    ∃ reader, nested = some reader ∧
      ∃ target ∈ targets, readTarget files home reader origin line target = .ok (some entry) := by
  unfold readInclude at read
  cases nested with
  | none => cases read
  | some reader =>
      cases all : targets.mapM (readTarget files home reader origin line) with
      | error failure => simp [all, bind, Except.bind] at read
      | ok found =>
          obtain rfl : found.filterMap id = entries := by
            simpa [all, bind, Except.bind, pure, Except.pure] using read
          rw [List.mem_filterMap] at member
          obtain ⟨gift, present, rfl⟩ := member
          exact ⟨reader, rfl, exists_of_mem_mapM all present⟩

/-- An entry that a line gives is a setting of the line or the blocks of a text that it includes. -/
theorem itemsOfLine_entry_cases {numbered : Text × Nat} {items : List Item} {entry : ConfigEntry}
    (read : itemsOfLine files home nested origin numbered = .ok items)
    (member : .entry entry ∈ items) :
    (∃ keyword value, entry = .setting keyword value ∧
        Directive.ofLine numbered.1 = .ok (some (.setting keyword value))) ∨
      ∃ reader path content document, nested = some reader ∧ reader content path = .ok document ∧
        entry = .included document.blocks := by
  unfold itemsOfLine at read
  split at read
  · cases read
  · cases read
    cases member
  · cases read
    simp at member
  · next keyword value said =>
    cases read
    simp only [List.mem_singleton, Item.entry.injEq] at member
    exact .inl ⟨keyword, value, member, said⟩
  · next targets said =>
    cases included : readInclude files home nested origin numbered.2 targets with
    | error failure => simp [included, Except.map] at read
    | ok entries =>
        obtain rfl : entries.map Item.entry = items := by
          simpa [included, Except.map] using read
        simp only [List.mem_map, Item.entry.injEq, exists_eq_right] at member
        obtain ⟨reader, deeper, target, _, gives⟩ := readInclude_mem included member
        obtain ⟨content, document, _, decoded, same⟩ := readTarget_eq_ok_some gives
        exact .inr ⟨reader, _, content, document, deeper, decoded, same⟩

/-- The patterns of a block that a line begins are those that the line says. -/
theorem patterns_of_opening {numbered : Text × Nat} {items : List Item} {patterns : List HostPattern}
    (read : itemsOfLine files home nested origin numbered = .ok items) (member : .opening patterns ∈ items) :
    ∃ written, patterns = written.map HostPattern.ofText ∧
      Directive.ofLine numbered.1 = .ok (some (.host written)) := by
  unfold itemsOfLine at read
  split at read
  · cases read
  · cases read
    cases member
  · next written said =>
    cases read
    simp only [List.mem_singleton, Item.opening.injEq] at member
    exact ⟨written, member, said⟩
  · cases read
    simp at member
  · next targets said =>
    cases included : readInclude files home nested origin numbered.2 targets with
    | error failure => simp [included, Except.map] at read
    | ok entries =>
        obtain rfl : entries.map Item.entry = items := by
          simpa [included, Except.map] using read
        simp at member

end SecureShell
