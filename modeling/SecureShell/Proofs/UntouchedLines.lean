/-
Module: SecureShell.Proofs.UntouchedLines
Purpose: Anchoring changes nothing but include lines. The anchored text has as many lines as the text, each made of the
  line in its place and of the home directory alone; where the keyword is not `include` with a blank behind it, it is
  that line, perhaps without the carriage return at its end. The reader takes that for a blank, so a text without
  include lines is read alike before and after it is anchored.
Main exports: IncludeBeforeBlank, includeBeforeBlank_of_ne, lines_anchorIncludes_of_kept, Document.parse_anchorIncludes
-/
import SecureShell.Proofs.CallerHistory
import SecureShell.Proofs.IncludeAnchoring
import SecureShell.Proofs.ReadingParts
import SecureShell.Proofs.TrailingRemarks

namespace SecureShell

open Directive

/-! ### The lines that are changed -/

/-- The keyword of a line is `include`, in whatever case it is written, and a blank follows it. -/
def IncludeBeforeBlank (line : Text) : Prop :=
  ∃ keyword rest c behind, Says line keyword rest ∧ Text.SameLetters keyword "include".toList ∧
    Text.trimStart line = keyword ++ c :: behind ∧ Text.isBlank c = true

theorem IncludeBeforeBlank.hasKeyword {line : Text} (includes : IncludeBeforeBlank line) :
    HasKeyword line "include".toList := by
  obtain ⟨keyword, rest, _, _, said, named, -, -⟩ := includes
  exact ⟨keyword, rest, said, named⟩

/-- A keyword that leads a line and has a blank behind it is the keyword of the line. -/
theorem Leads.says_blank {line keyword behind : Text} {c : Char} (leads : Leads keyword)
    (start : Text.trimStart line = keyword ++ c :: behind) (blank : Text.isBlank c = true) :
    ∃ rest, Says line keyword rest := by
  have bare : ∀ d ∈ keyword, (!endsKeyword d) = true := fun d member => by simp [leads.bare d member]
  have own : keywordOf line = keyword := by
    rw [keywordOf, start, List.takeWhile_append_of_pos bare]
    simp [endsKeyword, blank]
  have speaks : ¬ Silent line := by
    obtain ⟨first, more, whole⟩ := List.exists_cons_of_ne_nil leads.nonempty
    rw [silent_iff, start, whole]
    rintro (empty | comment)
    · cases empty
    · exact leads.shown (by simpa [whole] using comment)
  refine ⟨Text.trimEnd (bodyOf line), speaks, ?_⟩
  rw [keywordAndRest_trim, own]

/-- A line that is cut at its first target has its keyword in front of a blank. -/
theorem includeBeforeBlank_of_cut {line head target : Text} (cut : includeHead? line = some (head, target)) :
    IncludeBeforeBlank line := by
  simp only [includeHead?, Option.ite_none_right_eq_some] at cut
  obtain ⟨⟨named, gapped⟩, -⟩ := cut
  have leads : Leads ((Text.trimStart line).take 7) := leads_of_include named
  have gap : ((Text.trimStart line).drop 7).takeWhile Text.isBlank ≠ [] := gapped
  cases follows : (Text.trimStart line).drop 7 with
  | nil =>
      rw [follows] at gap
      exact absurd rfl gap
  | cons c behind =>
      rw [follows, List.takeWhile_cons] at gap
      have blank : Text.isBlank c = true := by
        by_contra shown
        exact gap (if_neg shown)
      have start : Text.trimStart line = (Text.trimStart line).take 7 ++ c :: behind := by
        rw [← follows, List.take_append_drop]
      obtain ⟨rest, said⟩ := leads.says_blank start blank
      exact ⟨_, rest, c, behind, said, named, start, blank⟩

/-- Any other line is left as it is. -/
theorem anchorLine_of_not {line : Text} (other : ¬ IncludeBeforeBlank line) (home : Path) :
    anchorLine home line = line := by
  unfold anchorLine
  split
  case h_5 cut => exact absurd (includeBeforeBlank_of_cut cut) other
  case h_6 cut => exact absurd (includeBeforeBlank_of_cut cut) other
  all_goals rfl

/-! ### The whole text -/

/-- A text of such lines keeps them, whatever the home directory is. -/
theorem lines_anchorIncludes_of_kept {home : Path} {text : Text}
    (kept : ∀ line ∈ Text.lines text, anchorLine home line = line) :
    Text.lines (anchorIncludes home text) = (Text.lines text).map Text.withoutReturn := by
  have rows : anchorIncludes home text = (Text.lines text).flatMap (· ++ ['\n']) := by
    rw [anchorIncludes, List.flatMap_def, List.flatMap_def, List.map_congr_left]
    intro line member
    rw [kept line member]
  rw [rows, Text.lines_ended fun line => Text.feed_not_mem_of_mem_lines]

namespace Document

/-- Anchoring a text gives as many lines as the text has. Each of them is made of the line in its place, and without
an `include` and a blank behind it, it is this line but for a carriage return at its end. A text in which no line has
the keyword is read alike before and after, with the same document or the same failure in the same place. -/
theorem parse_anchorIncludes (home : Path) (text : Text) :
    ('\n' ∉ home.text →
      (Text.lines (anchorIncludes home text)).length = (Text.lines text).length ∧
      ∀ (place : Nat) (line anchored : Text), (Text.lines text)[place]? = some line →
        (Text.lines (anchorIncludes home text))[place]? = some anchored →
          anchored = Text.withoutReturn (anchorLine home line) ∧
            (anchored ≠ Text.withoutReturn line → IncludeBeforeBlank line)) ∧
    ((∀ line ∈ Text.lines text, ¬ HasKeyword line "include".toList) → ∀ files origin base,
      parse files (anchorIncludes home text) origin base = parse files text origin base) := by
  constructor
  · intro single
    have lines := lines_anchorIncludes single text
    constructor
    · rw [lines, List.length_map]
    · intro place line anchored there here
      rw [lines, List.getElem?_map, there, Option.map_some, Option.some.injEq] at here
      refine ⟨here.symm, ?_⟩
      intro changed
      by_contra other
      rw [anchorLine_of_not other] at here
      exact changed here.symm
  · intro none files origin base
    have kept : ∀ line ∈ Text.lines text, anchorLine home line = line := by
      intro line member
      apply anchorLine_of_not
      exact fun includes => none line member includes.hasKeyword
    rw [parse, parse, readAt_eq]
    apply readLines_of_said
    rw [lines_anchorIncludes_of_kept kept, List.map_map]
    apply List.map_congr_left
    intro line member
    exact ofLine_congr (Text.trim_withoutReturn line)

/-- An include line and a line with two carriage returns at its end; a text in which an include line is commented out
and another line is at fault. -/
theorem parse_anchorIncludes_returns :
    let home : Path := ⟨"/h".toList⟩
    let files := FileSystem.holding ⟨"/c".toList⟩ (.ok [])
    let written := "INCLUDE a\r\nUser x\r\r\nPort 1".toList
    let faulty := "# include a\r\r\nMatch x".toList
    '\n' ∉ home.text ∧ (Text.lines (anchorIncludes home written)).length = 3 ∧
      IncludeBeforeBlank "INCLUDE a".toList ∧ (Text.lines (anchorIncludes home written))[1]? = some "User x".toList ∧
      (∀ line ∈ Text.lines faulty, ¬ HasKeyword line "include".toList) ∧
      parse files (anchorIncludes home faulty) ⟨"/c".toList⟩ home = .error ⟨⟨"/c".toList⟩, 2, .matchLine⟩ := by
  intro home files written faulty
  have single : '\n' ∉ home.text := by decide
  obtain ⟨sameNumber, each⟩ := (parse_anchorIncludes home written).1 single
  have changed := (each 0 "INCLUDE a".toList "INCLUDE /h/.ssh/a".toList rfl rfl).2 (by decide)
  have keywords : ∀ line ∈ Text.lines faulty,
      ¬ Text.SameLetters (keywordAndRest (Text.trim line)).1 "include".toList := by decide
  have none : ∀ line ∈ Text.lines faulty, ¬ HasKeyword line "include".toList := by
    rintro line member ⟨keyword, rest, said, named⟩
    apply keywords line member
    rw [said.parts]
    exact named
  have alike := (parse_anchorIncludes home faulty).2 none files ⟨"/c".toList⟩ home
  exact ⟨single, sameNumber, changed, rfl, none, alike⟩

end Document

end SecureShell
