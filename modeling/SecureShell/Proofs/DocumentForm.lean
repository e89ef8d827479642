/-
Module: SecureShell.Proofs.DocumentForm
Purpose: The form of every document that is read and of the documents that it includes, at every level: the first
  block is open to every host, no block is without a pattern, no value is empty or longer than a line, and no keyword
  holds a character that would end it or is one that the reader keeps for itself. All that can be looked up in a
  document is a setting of a block of one of these documents.
Main exports: Directive.SettingForm, Directive.settingForm_of_said, Document.Holds, Document.WellFormed,
  Document.readLines_wellFormed, Document.readAt_wellFormed, Document.exists_of_mem_settings
-/
import SecureShell.Proofs.LineGrammar
import SecureShell.Proofs.ReadingOrder

namespace SecureShell

namespace Directive

/-- The form of a setting: its value is something within one line, and its keyword is read as a whole and has no
meaning of its own for the reader. -/
structure SettingForm (keyword value : Text) : Prop where
  valued : value ≠ []
  single : '\n' ∉ value
  unbroken : ∀ c ∈ keyword, Text.isBlank c = false ∧ c ≠ '='
  notHost : ¬ Text.SameLetters keyword "host".toList
  notMatch : ¬ Text.SameLetters keyword "match".toList
  notInclude : ¬ Text.SameLetters keyword "include".toList

/-- Every setting that a line says has this form. -/
theorem settingForm_of_said {line keyword value : Text} (single : '\n' ∉ line)
    (read : ofLine line = .ok (some (.setting keyword value))) : SettingForm keyword value := by
  have unbroken : ∀ {rest : Text}, Says line keyword rest → ∀ c ∈ keyword, Text.isBlank c = false ∧ c ≠ '=' := by
    intro rest said c member
    simpa [endsKeyword] using said.keyword_bare c member
  have outcome := ofLine_outcome line
  rw [read] at outcome
  cases outcome with
  | command said nonempty named =>
      have short : '\n' ∉ value := fun member => single (said.rest_sublist.mem member)
      exact ⟨nonempty, short, unbroken said, not_sameLetters_of named (by decide),
        not_sameLetters_of named (by decide), not_sameLetters_of named (by decide)⟩
  | setting said _ named _ _ unquoted nonempty =>
      have within := ((unquote_sublist unquoted).trans (withoutComment_sublist _)).trans said.rest_sublist
      have short : '\n' ∉ value := fun member => single (within.mem member)
      exact ⟨nonempty, short, unbroken said, named.notHost, named.notMatch, named.notInclude⟩

end Directive

namespace Document

/-! ### Documents and the documents within them -/

/-- A document holds itself and whatever is held by the documents that its include lines have put into it. -/
inductive Holds : Document → Document → Prop where
  | itself {document : Document} : Holds document document
  | «included» {document inner : Document} {patterns : List HostPattern} {entries : List ConfigEntry}
      {blocks : List Block} (block : .scoped patterns entries ∈ document.blocks)
      (entry : .included blocks ∈ entries) (deeper : Holds ⟨blocks⟩ inner) : Holds document inner

/-- The form of a document, the documents within it left aside. -/
structure WellFormed (document : Document) : Prop where
  openFirst : ∃ entries later, document.blocks = .scoped [.any] entries :: later
  patterned : ∀ patterns entries, .scoped patterns entries ∈ document.blocks → patterns ≠ []
  settings : ∀ patterns entries, .scoped patterns entries ∈ document.blocks →
    ∀ keyword value, .setting keyword value ∈ entries → Directive.SettingForm keyword value

/-! ### The blocks of items -/

/-- Grouping makes every block of a beginning and of entries that are among the items. -/
theorem mem_grouped (items : List Item) :
    (∀ entry ∈ (grouped items).1, .entry entry ∈ items) ∧
      ∀ patterns entries, .scoped patterns entries ∈ (grouped items).2 →
        .opening patterns ∈ items ∧ ∀ entry ∈ entries, .entry entry ∈ items := by
  induction items with
  | nil => simp [grouped]
  | cons item rest ih =>
      obtain ⟨loose, blocked⟩ := ih
      have later : ∀ patterns entries, .scoped patterns entries ∈ (grouped rest).2 →
          .opening patterns ∈ item :: rest ∧ ∀ entry ∈ entries, .entry entry ∈ item :: rest := by
        intro patterns entries member
        obtain ⟨opened, all⟩ := blocked patterns entries member
        exact ⟨List.mem_cons_of_mem _ opened, fun entry within => List.mem_cons_of_mem _ (all entry within)⟩
      cases item with
      | entry first =>
          refine ⟨?_, later⟩
          intro entry member
          rcases List.mem_cons.mp member with rfl | member
          · exact List.mem_cons_self
          · exact List.mem_cons_of_mem _ (loose entry member)
      | opening own =>
          constructor
          · intro entry member
            cases member
          · intro patterns entries member
            rcases List.mem_cons.mp member with same | member
            · cases same
              exact ⟨List.mem_cons_self, fun entry within => List.mem_cons_of_mem _ (loose entry within)⟩
            · exact later patterns entries member

/-- A block of a document is the first one, which is open to every host, or has its beginning among the items; its
entries are among them in either case. -/
theorem mem_blocks_ofItems {items : List Item} {patterns : List HostPattern} {entries : List ConfigEntry}
    (member : .scoped patterns entries ∈ (ofItems items).blocks) :
    (patterns = [.any] ∨ .opening patterns ∈ items) ∧ ∀ entry ∈ entries, .entry entry ∈ items := by
  obtain ⟨loose, blocked⟩ := mem_grouped items
  rcases List.mem_cons.mp member with same | member
  · cases same
    exact ⟨.inl rfl, loose⟩
  · obtain ⟨opened, all⟩ := blocked patterns entries member
    exact ⟨.inr opened, all⟩

/-! ### The form of what is read -/

variable {files : FileSystem} {home : Path}

/-- A block that a line begins has a pattern. -/
theorem patterns_ne_nil {nested : Option TextReader} {origin : Path} {numbered : Text × Nat} {items : List Item}
    {patterns : List HostPattern} (read : itemsOfLine files home nested origin numbered = .ok items)
    (member : .opening patterns ∈ items) : patterns ≠ [] := by
  obtain ⟨written, rfl, said⟩ := patterns_of_opening read member
  have outcome := Directive.ofLine_outcome numbered.1
  rw [said] at outcome
  cases outcome with
  | host _ _ _ _ nonempty => exact fun none => nonempty (List.map_eq_nil_iff.mp none)

/-- The lines of a text give a document of the right form. -/
theorem readLines_wellFormed {nested : Option TextReader} {text : Text} {origin : Path} {document : Document}
    (read : readLines files home nested text origin = .ok document) : document.WellFormed := by
  obtain ⟨items, rfl, source⟩ := exists_items_of_readLines read
  constructor
  · exact ⟨_, _, rfl⟩
  · intro patterns entries block
    obtain ⟨rfl | opened, -⟩ := mem_blocks_ofItems block
    · exact List.cons_ne_nil _ _
    · obtain ⟨line, -, number, given, gives, member⟩ := source _ opened
      exact patterns_ne_nil gives member
  · intro patterns entries block keyword value entry
    have present := (mem_blocks_ofItems block).2 _ entry
    obtain ⟨line, held, number, given, gives, member⟩ := source _ present
    rcases itemsOfLine_entry_cases gives member with ⟨_, _, same, said⟩ | ⟨_, _, _, _, _, _, other⟩
    · cases same
      exact Directive.settingForm_of_said (Text.feed_not_mem_of_mem_lines held) said
    · cases other

/-- A document that is read has the right form, and so have all documents within it. -/
theorem readAt_wellFormed {levels : Nat} {text : Text} {origin : Path} {document : Document}
    (read : readAt files home levels text origin = .ok document) :
    ∀ inner, document.Holds inner → inner.WellFormed := by
  apply readAt_induction ?_ read
  intro nested text origin document read deeper inner holds
  cases holds with
  | itself => exact readLines_wellFormed read
  | «included» block entry within =>
      obtain ⟨items, rfl, source⟩ := exists_items_of_readLines read
      have present := (mem_blocks_ofItems block).2 _ entry
      obtain ⟨line, -, number, given, gives, member⟩ := source _ present
      rcases itemsOfLine_entry_cases gives member with
        ⟨_, _, other, _⟩ | ⟨reader, path, content, included, same, decoded, entries⟩
      · cases other
      · cases entries
        exact deeper reader same content path included decoded inner within

/-! ### The row of settings -/

theorem mem_settingsOfBlocks {scopes : List (List HostPattern)} {blocks : List Block} {setting : ScopedSetting}
    (member : setting ∈ settingsOfBlocks scopes blocks) :
    ∃ patterns entries, .scoped patterns entries ∈ blocks ∧
      setting ∈ settingsOfEntries (scopes ++ [patterns]) entries := by
  induction blocks with
  | nil => simp [settingsOfBlocks] at member
  | cons block rest ih =>
      rw [settingsOfBlocks, List.mem_append] at member
      rcases member with own | later
      · obtain ⟨patterns, entries⟩ := block
        exact ⟨patterns, entries, List.mem_cons_self, by simpa [settingsOfBlock] using own⟩
      · obtain ⟨patterns, entries, present, within⟩ := ih later
        exact ⟨patterns, entries, List.mem_cons_of_mem _ present, within⟩

theorem mem_settingsOfEntries {scopes : List (List HostPattern)} {entries : List ConfigEntry}
    {setting : ScopedSetting} (member : setting ∈ settingsOfEntries scopes entries) :
    ∃ entry ∈ entries, setting ∈ settingsOfEntry scopes entry := by
  induction entries with
  | nil => simp [settingsOfEntries] at member
  | cons entry rest ih =>
      rw [settingsOfEntries, List.mem_append] at member
      rcases member with own | later
      · exact ⟨entry, List.mem_cons_self, own⟩
      · obtain ⟨other, present, within⟩ := ih later
        exact ⟨other, List.mem_cons_of_mem _ present, within⟩

/-- Every setting in the row of a document stands in a block of the document or of one within it. -/
theorem exists_of_mem_settings {scopes : List (List HostPattern)} {blocks : List Block} {setting : ScopedSetting}
    (member : setting ∈ settingsOfBlocks scopes blocks) :
    ∃ inner patterns entries, Holds ⟨blocks⟩ inner ∧ .scoped patterns entries ∈ inner.blocks ∧
      .setting setting.keyword setting.value ∈ entries := by
  obtain ⟨patterns, entries, block, within⟩ := mem_settingsOfBlocks member
  obtain ⟨entry, present, own⟩ := mem_settingsOfEntries within
  cases entry with
  | setting keyword value =>
      obtain rfl : setting = ⟨scopes ++ [patterns], keyword, value⟩ := by simpa [settingsOfEntry] using own
      exact ⟨⟨blocks⟩, patterns, entries, .itself, block, present⟩
  | «included» nested =>
      obtain ⟨inner, around, row, holds, found⟩ := exists_of_mem_settings (by simpa [settingsOfEntry] using own)
      exact ⟨inner, around, row, .included block present holds, found⟩
termination_by sizeOf blocks
decreasing_by
  have outer := List.sizeOf_lt_of_mem block
  have inner := List.sizeOf_lt_of_mem present
  simp at outer inner
  omega

end Document

end SecureShell
