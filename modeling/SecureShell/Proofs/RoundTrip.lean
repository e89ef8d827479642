/-
Module: SecureShell.Proofs.RoundTrip
Purpose: Reading a written sheet gives the document of the sheet, whatever its layout. The scanners of a line are
  undone one after the other: the cut into lines, the blanks at both ends, the keyword and what divides it from
  the value, the remark, and at last the quotes.
Main exports: Hides, Enclosed, withoutComment_remark, unquote_written, splitArguments_patterns,
  Statement.ofLine_text, Row.items_read, readLines_rows, ofItems_sheet, Document.parse_render
-/
import SecureShell.Proofs.ReadingOrder
import SecureShell.Proofs.Rendering

namespace SecureShell

open Directive

/-! ### Remarks -/

/-- A text that keeps its number signs to itself: the search for a comment goes on behind it, outside quotes
and not behind a blank. -/
def Hides (core : Text) : Prop :=
  ∀ afterBlank rest, beforeComment false afterBlank (core ++ rest)
    = (beforeComment false false rest).map (core ++ ·)

/-- Within quotes there is no comment. -/
theorem beforeComment_inner {inner : Text} (unquoted : '"' ∉ inner) (afterBlank : Bool) (rest : Text) :
    ∃ later, beforeComment true afterBlank (inner ++ rest)
      = (beforeComment true later rest).map (inner ++ ·) := by
  induction inner generalizing afterBlank with
  | nil => exact ⟨afterBlank, by simp⟩
  | cons c inner ih =>
      have different : c ≠ '"' := fun same => unquoted (same ▸ List.mem_cons_self)
      obtain ⟨later, found⟩ := ih (fun member => unquoted (List.mem_cons_of_mem _ member)) (Text.isBlank c)
      refine ⟨later, ?_⟩
      rw [List.cons_append, beforeComment, if_neg (by simp), decide_eq_false different, Bool.xor_false,
        found, Option.map_map]
      rfl

theorem hides_written (inner : Quotable) : Hides inner.written := by
  intro afterBlank rest
  obtain ⟨later, found⟩ := beforeComment_inner inner.unquoted false ('"' :: rest)
  have opened : beforeComment false afterBlank ('"' :: (inner.text ++ '"' :: rest))
      = (beforeComment true false (inner.text ++ '"' :: rest)).map ('"' :: ·) := by
    rw [beforeComment, if_neg (by simp)]
    rfl
  have closed : beforeComment true later ('"' :: rest)
      = (beforeComment false false rest).map ('"' :: ·) := by
    rw [beforeComment, if_neg (by simp)]
    rfl
  rw [Quotable.written, List.append_assoc, List.singleton_append, List.cons_append, opened, found, closed,
    Option.map_map, Option.map_map]
  congr 1
  funext kept
  simp

/-- Blanks hold no comment. -/
theorem beforeComment_blanks {blanks : Text} (blank : ∀ c ∈ blanks, Text.isBlank c = true) (rest : Text) :
    beforeComment false true (blanks ++ rest) = (beforeComment false true rest).map (blanks ++ ·) := by
  induction blanks with
  | nil => simp
  | cons c blanks ih =>
      have here := blank c List.mem_cons_self
      have different : c ≠ '#' := Text.ne_of_blank here (by decide)
      have noQuote : c ≠ '"' := Text.ne_of_blank here (by decide)
      rw [List.cons_append, beforeComment, if_neg (fun all => different all.1), here,
        decide_eq_false noQuote, Bool.xor_false, ih fun d member => blank d (List.mem_cons_of_mem _ member),
        Option.map_map]
      rfl

theorem beforeComment_gap (gap : Gap) (rest : Text) :
    beforeComment false false (gap.text ++ rest)
      = (beforeComment false true rest).map (gap.text ++ ·) := by
  obtain ⟨c, blanks, text, here, blank⟩ := gap.exists_cons
  have noQuote : c ≠ '"' := Text.ne_of_blank here (by decide)
  rw [text, List.cons_append, beforeComment, if_neg (by simp), here, decide_eq_false noQuote,
    Bool.xor_false, beforeComment_blanks blank, Option.map_map]
  rfl

/-- A text in quotes, or several with blanks between them. -/
structure Enclosed (core : Text) : Prop where
  solid : Solid core
  ended : Text.trimEnd core = core
  hides : Hides core

theorem enclosed_written (inner : Quotable) : Enclosed inner.written where
  solid := ⟨'"', inner.text ++ ['"'], rfl, by decide, by decide⟩
  ended := by
    refine Text.trimEnd_of_last fun c last => ?_
    obtain rfl : '"' = c := by simpa [Quotable.written, List.getLast?_cons] using last
    decide
  hides := hides_written inner

theorem Enclosed.append {front back : Text} (first : Enclosed front) (gap : Gap)
    (second : Enclosed back) : Enclosed (front ++ gap.text ++ back) where
  solid := (first.solid.append gap.text).append back
  ended := by
    have shown := second.solid.ne_nil
    rw [Text.trimEnd_append, second.ended, if_neg shown]
  hides := by
    intro afterBlank rest
    rw [List.append_assoc, List.append_assoc, first.hides, beforeComment_gap, second.hides, Option.map_map,
      Option.map_map]
    congr 1
    funext kept
    simp

theorem enclosed_patterns (gap : Nat → Gap) {patterns : List Quotable} (nonempty : patterns ≠ []) :
    Enclosed (patternsText gap patterns) := by
  induction patterns generalizing gap with
  | nil => exact absurd rfl nonempty
  | cons pattern rest ih =>
      cases rest with
      | nil => exact enclosed_written pattern
      | cons next rest =>
          exact (enclosed_written pattern).append (gap 0) (ih (fun n => gap (n + 1)) (by simp))

/-- The remark behind a text in quotes is taken off, with the blanks in front of it. -/
theorem withoutComment_remark {core : Text} (enclosed : Enclosed core) (remark : Option Remark) :
    withoutComment (Text.trimEnd (core ++ remarkText remark)) = core := by
  cases remark with
  | none =>
      have found := enclosed.hides false []
      rw [List.append_nil] at found
      rw [remarkText, List.append_nil, enclosed.ended, withoutComment, found]
      rfl
  | some remark =>
      obtain ⟨gap, phrase⟩ := remark
      have kept : Text.trimEnd ('#' :: phrase.text) = '#' :: Text.trimEnd phrase.text :=
        Text.trimEnd_cons_of_not (by decide) _
      have trimmed : Text.trimEnd (core ++ remarkText (some ⟨gap, phrase⟩))
          = core ++ (gap.text ++ '#' :: Text.trimEnd phrase.text) := by
        rw [remarkText, ← List.append_assoc, Text.trimEnd_append, if_neg (by simp [kept]), kept,
          List.append_assoc]
      have found : beforeComment false false (core ++ (gap.text ++ '#' :: Text.trimEnd phrase.text))
          = some (core ++ gap.text) := by
        rw [enclosed.hides, beforeComment_gap, beforeComment, if_pos (by simp)]
        simp
      rw [trimmed, withoutComment, found]
      simp only [Text.trimEnd_append, if_pos (Text.trimEnd_of_blank gap.blank), enclosed.ended]

/-! ### Quotes -/

theorem unquote_written (inner : Quotable) : unquote inner.written = .ok inner.text := by
  have whole : inner.written = '"' :: (inner.text ++ ['"']) := rfl
  have none : inner.text.count '"' = 0 := List.count_eq_zero.mpr inner.unquoted
  have even : ¬ ('"' :: (inner.text ++ ['"'])).count '"' % 2 = 1 := by simp [List.count_append, none]
  have closed : (inner.text ++ ['"']).getLast? = some '"' ∧ '"' ∉ (inner.text ++ ['"']).dropLast := by
    simp [inner.unquoted]
  rw [List.dropLast_concat] at closed
  rw [whole, unquote, if_neg even]
  simp only [List.dropLast_concat, if_pos closed]

/-- Within quotes every character belongs to the argument. -/
theorem splitArguments_inner {inner : Text} (unquoted : '"' ∉ inner) (begun rest : Text) :
    splitArguments true (some begun) (inner ++ '"' :: rest)
      = splitArguments false (some (begun ++ inner)) rest := by
  induction inner generalizing begun with
  | nil => simp [splitArguments]
  | cons c inner ih =>
      have different : c ≠ '"' := fun same => unquoted (same ▸ List.mem_cons_self)
      rw [List.cons_append, splitArguments, if_neg different, if_neg (by simp),
        ih fun member => unquoted (List.mem_cons_of_mem _ member)]
      simp

theorem splitArguments_written (inner : Quotable) (rest : Text) :
    splitArguments false none (inner.written ++ rest) = splitArguments false (some inner.text) rest := by
  rw [Quotable.written, List.append_assoc, List.singleton_append, List.cons_append, splitArguments,
    if_pos rfl, Bool.not_false, splitArguments_inner inner.unquoted]
  rfl

/-- Blanks in front of an argument make no difference. -/
theorem splitArguments_blanks {blanks : Text} (blank : ∀ c ∈ blanks, Text.isBlank c = true) (rest : Text) :
    splitArguments false none (blanks ++ rest) = splitArguments false none rest := by
  induction blanks with
  | nil => rfl
  | cons c blanks ih =>
      have here := blank c List.mem_cons_self
      have noQuote : c ≠ '"' := Text.ne_of_blank here (by decide)
      rw [List.cons_append, splitArguments, if_neg noQuote, if_pos ⟨here, rfl⟩,
        ih fun d member => blank d (List.mem_cons_of_mem _ member)]
      cases splitArguments false none rest <;> simp [Except.map]

/-- Blanks behind an argument end it. -/
theorem splitArguments_gap (begun : Text) (gap : Gap) (rest : Text) :
    splitArguments false (some begun) (gap.text ++ rest)
      = (splitArguments false none rest).map (begun :: ·) := by
  obtain ⟨c, blanks, text, here, blank⟩ := gap.exists_cons
  have noQuote : c ≠ '"' := Text.ne_of_blank here (by decide)
  rw [text, List.cons_append, splitArguments, if_neg noQuote, if_pos ⟨here, rfl⟩,
    splitArguments_blanks blank]
  rfl

theorem splitArguments_patterns (gap : Nat → Gap) {patterns : List Quotable} (nonempty : patterns ≠ []) :
    splitArguments false none (patternsText gap patterns)
      = .ok (patterns.map fun pattern => pattern.text) := by
  induction patterns generalizing gap with
  | nil => exact absurd rfl nonempty
  | cons pattern rest ih =>
      cases rest with
      | nil =>
          have one := splitArguments_written pattern []
          rw [List.append_nil] at one
          rw [patternsText, one]
          rfl
      | cons next rest =>
          rw [patternsText, List.append_assoc, splitArguments_written, splitArguments_gap,
            ih (fun n => gap (n + 1)) (by simp)]
          rfl

/-! ### One line -/

/-- The keyword of a proxy command leads its line in every spelling. -/
theorem leads_of_command {keyword : Text} (named : Text.SameLetters keyword "proxycommand".toList) :
    Leads keyword :=
  Leads.of_sameLetters ⟨by decide, by simp [endsKeyword, Text.isBlank], by decide⟩ rfl named

theorem CommandLine.solid (value : CommandLine) : Solid value.text := by
  obtain ⟨c, rest, text⟩ := List.exists_cons_of_ne_nil value.nonempty
  have head : (Text.trim value.text).head? = some c := by rw [value.trimmed, text]; rfl
  refine ⟨c, rest, text, Text.head_trim head, ?_⟩
  rintro rfl
  exact value.noEquals (by simp [text])

theorem CommandLine.ended (value : CommandLine) : Text.trimEnd value.text = value.text := by
  have trimmed := value.trimmed
  rwa [Text.trim, value.solid.trimStart_eq] at trimmed

/-- What a statement says to the reader. -/
def Statement.directive : Statement → Directive
  | .host patterns _ => .host (patterns.map fun pattern => pattern.text)
  | .setting (.quoted keyword value _) => .setting keyword.text value.text
  | .setting (.command keyword _ value) => .setting keyword value.text

/-- A line that is written with quotes and a remark says what its keyword makes of the text in quotes. -/
theorem Leads.ofLine_eq {keyword core : Text} (leads : Leads keyword) (layout : LineLayout)
    (enclosed : Enclosed core) {directive : Directive}
    (asked : ∀ rest, rest ≠ [] → withoutComment rest = core → ofKeyword keyword rest = .ok directive) :
    ofLine (layout.indent.text ++ keyword ++ layout.divider.text ++ (core ++ remarkText layout.remark))
      = .ok (some directive) := by
  have solid := enclosed.solid.append (remarkText layout.remark)
  rw [(leads.said layout.indent layout.divider solid).ofLine_eq,
    asked _ solid.trimEnd.ne_nil (withoutComment_remark enclosed layout.remark)]
  rfl

theorem Statement.ofLine_text (layout : LineLayout) (statement : Statement) :
    ofLine (statement.text layout) = .ok (some statement.directive) := by
  cases statement with
  | host patterns nonempty =>
      have leads : Leads "Host".toList := ⟨by decide, by simp [endsKeyword, Text.isBlank], by decide⟩
      refine leads.ofLine_eq layout (enclosed_patterns layout.gap nonempty) fun rest some core => ?_
      have split : arguments rest = .ok (patterns.map fun pattern => pattern.text) := by
        rw [arguments, core, splitArguments_patterns layout.gap nonempty]
      exact ofKeyword_host some (by decide) split (by simpa using nonempty)
  | setting setting =>
      cases setting with
      | quoted keyword value nonempty =>
          refine keyword.leads.ofLine_eq layout (enclosed_written value) fun rest some core => ?_
          have unquoted : unquote (withoutComment rest) = .ok value.text := by
            rw [core, unquote_written]
          exact keyword.plain.ofKeyword_eq some unquoted nonempty
      | command keyword named value =>
          have said := (leads_of_command named).said layout.indent layout.divider value.solid
          rw [value.ended] at said
          rw [Statement.text, said.ofLine_eq, ofKeyword_command value.nonempty named]
          rfl

theorem Filler.silent (filler : Filler) : Silent filler.text := by
  cases filler with
  | empty blanks => exact .inl (Text.trim_of_blank blanks.blank)
  | comment indent phrase =>
      refine .inr ?_
      rw [Filler.text, Text.trim_blank_append indent.blank, Text.trim,
        Text.trimStart_cons_of_not (by decide), Text.trimEnd_cons_of_not (by decide)]
      rfl

/-! ### Every row is one line -/

theorem Divider.single (divider : Divider) : '\n' ∉ divider.text := by
  cases divider with
  | blanks gap => exact gap.single
  | equals before after => simp [Divider.text, before.single, after.single]

theorem Leads.single {keyword : Text} (leads : Leads keyword) : '\n' ∉ keyword :=
  fun member => absurd (leads.bare '\n' member) (by decide)

theorem Quotable.single_written (inner : Quotable) : '\n' ∉ inner.written := by
  simp [Quotable.written, inner.single]

theorem patternsText_single (gap : Nat → Gap) (patterns : List Quotable) :
    '\n' ∉ patternsText gap patterns := by
  induction patterns generalizing gap with
  | nil => simp [patternsText]
  | cons pattern rest ih =>
      cases rest with
      | nil => exact pattern.single_written
      | cons next rest =>
          have later := ih fun n => gap (n + 1)
          simp [patternsText, pattern.single_written, (gap 0).single, later]

theorem remarkText_single (remark : Option Remark) : '\n' ∉ remarkText remark := by
  cases remark with
  | none => simp [remarkText]
  | some remark => simp [remarkText, remark.gap.single, remark.phrase.single]

theorem Statement.single (layout : LineLayout) (statement : Statement) :
    '\n' ∉ statement.text layout := by
  have indent := layout.indent.single
  have divider := layout.divider.single
  have remark := remarkText_single layout.remark
  cases statement with
  | host patterns nonempty =>
      simp [Statement.text, indent, divider, remark, patternsText_single layout.gap patterns]
  | setting setting =>
      cases setting with
      | quoted keyword value nonempty =>
          simp [Statement.text, indent, divider, remark, keyword.leads.single, value.single_written]
      | command keyword named value =>
          simp [Statement.text, indent, divider, (leads_of_command named).single, value.single]

theorem Row.single (row : Row) : '\n' ∉ row.text := by
  cases row with
  | statement layout meant => exact meant.single layout
  | filler idle =>
      cases idle with
      | empty blanks => exact blanks.single
      | comment indent phrase => simp [Row.text, Filler.text, indent.single, phrase.single]

/-! ### All lines -/

/-- What a statement contributes to the document. -/
def Statement.item : Statement → Item
  | .host patterns _ => .opening (patterns.map Quotable.pattern)
  | .setting one => .entry one.entry

def Row.items : Row → List Item
  | .filler _ => []
  | .statement _ meant => [meant.item]

variable {files : FileSystem} {home origin : Path} {nested : Option TextReader}

theorem ofText_text (inner : Quotable) : HostPattern.ofText inner.text = inner.pattern :=
  HostPattern.ofText_eq inner.text

/-- A row is read as its items, with either line end. -/
theorem Row.items_read (row : Row) (ending : LineEnd) (number : Nat) :
    itemsOfLine files home nested origin (Text.withoutReturn (row.text ++ ending.mark), number)
      = .ok row.items := by
  have same : ∀ line, ofLine (Text.withoutReturn (line ++ ending.mark)) = ofLine line := fun line =>
    ofLine_congr ((Text.trim_withoutReturn _).trans (Text.trim_append_blank line ending.blank_mark))
  cases row with
  | filler idle => simp only [itemsOfLine, Row.text, same, ofLine_of_silent idle.silent, Row.items]
  | statement layout meant =>
      simp only [itemsOfLine, Row.text, same, meant.ofLine_text layout, Row.items]
      cases meant with
      | host patterns nonempty => simp [Statement.directive, Statement.item, ofText_text]
      | setting one => cases one <;> rfl

theorem lines_rowsText (rows : List (Row × LineEnd)) :
    Text.lines (rowsText rows) = rows.map fun ended => Text.withoutReturn (ended.1.text ++ ended.2.mark) := by
  have single : ∀ line ∈ rows.map fun ended => ended.1.text ++ ended.2.mark, '\n' ∉ line := by
    intro line member
    obtain ⟨ended, -, rfl⟩ := List.mem_map.mp member
    simp [ended.1.single, ended.2.single_mark]
  have lines := Text.lines_ended single
  rwa [List.flatMap_map, List.map_map] at lines

/-- A text of rows is read as the document of their items. -/
theorem readLines_rows (rows : List (Row × LineEnd)) :
    readLines files home nested (rowsText rows) origin
      = .ok (Document.ofItems (rows.flatMap fun ended => ended.1.items)) := by
  have all : ∀ start, ((Text.lines (rowsText rows)).zipIdx start).mapM (itemsOfLine files home nested origin)
      = .ok (rows.map fun ended => ended.1.items) := by
    rw [lines_rowsText]
    induction rows with
    | nil => exact fun _ => rfl
    | cons ended rows ih =>
        intro start
        rw [List.map_cons, List.zipIdx_cons, mapM_cons_of_ok (ended.1.items_read ended.2 start), ih]
        rfl
  rw [readLines, all]
  simp [bind, Except.bind, pure, Except.pure, List.flatMap]

/-! ### The document -/

theorem items_fillers (fillers : List (Filler × LineEnd)) :
    ((fillers.map fun ended => (Row.filler ended.1, ended.2)).flatMap fun ended => ended.1.items) = [] := by
  induction fillers with
  | nil => rfl
  | cons ended fillers ih => exact ih

theorem LineLayout.items_rows (layout : LineLayout) (statement : Statement) :
    ((layout.rows statement).flatMap fun ended => ended.1.items) = [statement.item] := by
  rw [LineLayout.rows, List.flatMap_append, items_fillers]
  rfl

/-- Only the statements of a written sheet contribute to the document. -/
theorem Layout.items_rows (layout : Layout) (sheet : Sheet) :
    ((layout.rows sheet).flatMap fun ended => ended.1.items) = sheet.statements.map Statement.item := by
  have all : ∀ (statements : List Statement) start,
      ((statements.zipIdx start).flatMap fun numbered => (layout.line numbered.2).rows numbered.1).flatMap
        (fun ended => ended.1.items) = statements.map Statement.item := by
    intro statements
    induction statements with
    | nil => exact fun _ => rfl
    | cons statement rest ih =>
        intro start
        rw [List.zipIdx_cons, List.flatMap_cons, List.flatMap_append, ih, LineLayout.items_rows]
        rfl
  rw [Layout.rows, List.flatMap_append, all, items_fillers, List.append_nil]

theorem grouped_settings (settings : List SheetSetting) (rest : List Item) :
    grouped ((settings.map Statement.setting).map Statement.item ++ rest)
      = (settings.map SheetSetting.entry ++ (grouped rest).1, (grouped rest).2) := by
  induction settings with
  | nil => rfl
  | cons one settings ih =>
      rw [List.map_cons, List.map_cons, List.cons_append, Statement.item, grouped, ih]
      rfl

theorem grouped_sections (sections : List Section) :
    grouped ((sections.flatMap Section.statements).map Statement.item)
      = ([], sections.map Section.block) := by
  induction sections with
  | nil => rfl
  | cons part sections ih =>
      have inner := grouped_settings part.settings ((sections.flatMap Section.statements).map Statement.item)
      rw [ih, List.append_nil] at inner
      rw [List.flatMap_cons, Section.statements, List.map_append, List.map_cons, List.cons_append,
        Statement.item, grouped, inner]
      rfl

theorem ofItems_sheet (sheet : Sheet) :
    Document.ofItems (sheet.statements.map Statement.item) = sheet.document := by
  have parts := grouped_settings sheet.leading ((sheet.sections.flatMap Section.statements).map Statement.item)
  rw [grouped_sections, List.append_nil] at parts
  rw [Document.ofItems, Sheet.statements, List.map_append, parts]
  rfl

/-- Reading what a sheet is written as, in whatever layout, gives the document of the sheet. -/
theorem Document.parse_render (files : FileSystem) (origin home : Path) (layout : Layout) (sheet : Sheet) :
    Document.parse files (layout.render sheet) origin home = .ok sheet.document := by
  have read : readAt files home includeLimit
      = readLines files home (some (readAt files home (includeLimit - 1))) := rfl
  rw [Document.parse, read, Layout.render, readLines_rows, layout.items_rows, ofItems_sheet]

end SecureShell
