/-
Module: SecureShell.Proofs.SplicedInclude
Purpose: An include line stands for the text that it names. A file without host lines of its own may as well be written
  in the place of the line: what it sets then belongs to the block in which the line stands, and what it includes is
  read one level higher, which makes no difference to what is read. Only a host that the pattern of the file's first
  block does not fit can tell the two apart.
Main exports: Hostless, search_of_hostless, Yields.hostless, Yields.ended, ofLine_include_bare,
  itemsOfLine_include_single, Document.get_spliced
-/
import SecureShell.Proofs.AppendedText
import SecureShell.Proofs.EncodedText
import SecureShell.Proofs.EveryHost
import SecureShell.Proofs.IncludeAnchoring

namespace SecureShell

open Directive

variable {files : FileSystem} {home : Path} {reader : Option TextReader}

/-! ### Items without a block beginning -/

/-- Items that all belong to the block that is open in front of them. -/
def Hostless (items : List Item) : Prop :=
  ∀ item ∈ items, ∃ entry, item = .entry entry

theorem Hostless.tail {item : Item} {rest : List Item} (hostless : Hostless (item :: rest)) : Hostless rest :=
  fun other member => hostless other (List.mem_cons_of_mem _ member)

theorem Document.selectedBehind_of_hostless {items : List Item} (hostless : Hostless items) (host : Text)
    (selected : Bool) : selectedBehind host selected items = selected := by
  induction items with
  | nil => rfl
  | cons item rest ih =>
      obtain ⟨entry, rfl⟩ := hostless item List.mem_cons_self
      rw [selectedBehind, ih hostless.tail]

/-- They are looked up if their block selects the host, and not at all otherwise. -/
theorem Document.search_of_hostless {items : List Item} (hostless : Hostless items) (host keyword : Text)
    (selected : Bool) :
    search host keyword selected items = if selected then search host keyword true items else none := by
  induction items with
  | nil => cases selected <;> rfl
  | cons item rest ih =>
      obtain ⟨entry, rfl⟩ := hostless item List.mem_cons_self
      rw [search, ih hostless.tail]
      cases selected <;> simp [search]

/-- A line that is read gives a block beginning only if it is a host line. -/
theorem itemsOfLine_hostless {line : Text} (noHost : ¬ HasKeyword line "host".toList) {origin : Path} {number : Nat}
    {items : List Item} (read : itemsOfLine files home reader origin (line, number) = .ok items) :
    Hostless items := by
  intro item member
  cases item with
  | entry entry => exact ⟨entry, rfl⟩
  | opening patterns =>
      obtain ⟨written, -, host⟩ := patterns_of_opening read member
      have outcome := ofLine_outcome line
      rw [host] at outcome
      cases outcome with
      | host said _ named _ _ => exact absurd ⟨_, _, said, named⟩ noHost

theorem Yields.hostless {lines : List Text} {items : List Item} (yields : Yields files home reader lines items)
    (noHost : ∀ line ∈ lines, ¬ HasKeyword line "host".toList) : Hostless items := by
  induction yields with
  | nil => exact fun item member => nomatch member
  | cons first _ ih =>
      intro item member
      rcases List.mem_append.mp member with member | member
      · exact itemsOfLine_hostless (noHost _ List.mem_cons_self) first item member
      · exact ih (fun line within => noHost line (List.mem_cons_of_mem _ within)) item member

/-! ### A text with a line end behind it -/

theorem itemsOfLine_withoutReturn (line : Text) (origin : Path) (number : Nat) :
    itemsOfLine files home reader origin (Text.withoutReturn line, number)
      = itemsOfLine files home reader origin (line, number) :=
  itemsOfLine_congr (ofLine_congr (Text.trim_withoutReturn line)) number

/-- A line end behind the last part gives nothing more. -/
theorem Yields.ended {parts : List Text} {items : List Item}
    (yields : Yields files home reader (Text.endedLines parts) items) :
    Yields files home reader (parts.map Text.withoutReturn) items := by
  induction parts generalizing items with
  | nil => exact yields
  | cons part rest ih =>
      cases rest with
      | nil =>
          by_cases empty : part = []
          · subst empty
            cases yields
            exact .cons (itemsOfLine_silent (.inl rfl) home 0) .nil
          · rw [Text.endedLines, if_neg empty] at yields
            cases yields with
            | cons first behind =>
                rw [← itemsOfLine_withoutReturn] at first
                exact .cons first behind
      | cons next rest =>
          cases yields with
          | cons first behind => exact .cons first (ih behind)

/-! ### The include line -/

/-- A path without blanks and quotes is the only target of its line. -/
theorem ofLine_include_bare {path : Text} (absolute : path.head? = some '/') (bare : Bare path) :
    ofLine ("Include ".toList ++ path) = .ok (some (.include [path])) := by
  obtain ⟨rest, rfl⟩ := List.head?_eq_some_iff.mp absolute
  have cut : includeHead? "Include ".toList = some ("Include ".toList, []) := by decide
  have including := (includeHead?_eq_some (by decide) cut).1
  have trimmed := trimEnd_front bare []
  have split := arguments_front bare (List.cons_ne_nil _ _) []
  rw [List.append_nil] at trimmed split
  rw [including.ofLine_iff ⟨'/', rest, rfl, by decide, by decide⟩, trimmed, Text.trimEnd, List.append_nil, split]
  simp [argumentsBegun, withoutComment, beforeComment, splitArguments, Except.map]

/-- A line with one target that can be read gives the document of the target. -/
theorem itemsOfLine_include_single {nested : TextReader} {line target content : Text}
    (said : ofLine line = .ok (some (.include [target])))
    (held : files.readText (includePath home target) = .ok content) {origin : Path} {number : Nat}
    {items : List Item} (read : itemsOfLine files home (some nested) origin (line, number) = .ok items) :
    ∃ document, nested content (includePath home target) = .ok document ∧
      items = [.entry (.included document.blocks)] := by
  cases decoded : nested content (includePath home target) with
  | error failure =>
      simp [itemsOfLine, said, readInclude, readTarget, held, decoded, Except.map, bind, Except.bind] at read
  | ok document =>
      refine ⟨document, rfl, ?_⟩
      simpa [itemsOfLine, said, readInclude, readTarget, held, decoded, Except.map, bind, Except.bind, pure,
        Except.pure] using read.symm

namespace Document

/-- A text with an include line, and the text with the named file in the place of the line, answer alike for every host
that a single asterisk fits, if the file has no host line of its own. -/
theorem get_spliced {front path content back : Text} {origin : Path} {included spliced : Document}
    (ended : Text.EndsLine front) (absolute : path.head? = some '/') (bare : Bare path)
    (held : files.readText ⟨path⟩ = .ok content)
    (noHost : ∀ line ∈ Text.lines content, ¬ HasKeyword line "host".toList)
    (one : parse files (front ++ ("Include ".toList ++ path ++ '\n' :: back)) origin home = .ok included)
    (two : parse files (front ++ (content ++ '\n' :: back)) origin home = .ok spliced)
    {host : Text} (reached : Glob.matches ['*'] host = true) (keyword : Text) :
    included.get host keyword = spliced.get host keyword := by
  obtain ⟨items, yields, rfl⟩ := parse_eq_ok_iff.mp one
  obtain ⟨others, yieldsToo, rfl⟩ := parse_eq_ok_iff.mp two
  have single : '\n' ∉ "Include ".toList ++ path := by
    rw [List.mem_append, not_or]
    exact ⟨by decide, fun member => absurd (bare '\n' member).1 (by decide)⟩
  -- both texts are cut into the lines in front, those in question and those behind
  rw [Text.lines_append ended, Text.lines_append_feed single] at yields
  rw [Text.lines_append ended, Text.lines_feed] at yieldsToo
  obtain ⟨before, _, readBefore, line, rfl⟩ := yields_append_iff.mp yields
  obtain ⟨again, _, readAgain, middle, rfl⟩ := yields_append_iff.mp yieldsToo
  obtain ⟨inner, after, readInner, readAfter, rfl⟩ := yields_append_iff.mp middle
  obtain rfl := readBefore.unique readAgain
  cases line with
  | cons first behind =>
    obtain rfl := behind.unique readAfter
    -- the included document has the items of the file, which are the same one level deeper
    rw [itemsOfLine_withoutReturn] at first
    have there : includePath home path = ⟨path⟩ := by
      obtain ⟨rest, rfl⟩ := List.head?_eq_some_iff.mp absolute
      rfl
    obtain ⟨document, decoded, rfl⟩ :=
      itemsOfLine_include_single (ofLine_include_bare absolute bare) (by rw [there]; exact held) first
    rw [readAt_eq, readLines_eq_ok_iff] at decoded
    obtain ⟨own, yieldsOwn, rfl⟩ := decoded
    have hostless : Hostless own := yieldsOwn.hostless noHost
    have raised : Yields files home (deeper? files home includeLimit) (Text.lines content) own :=
      yieldsOwn.covered (covers_succ files home _)
    obtain rfl := raised.ended.unique readInner
    have nested := get_ofItems host keyword own
    rw [HostPattern.selects_any, ← Glob.matches_asterisk, reached] at nested
    have alike : ∀ selected, search host keyword selected [.entry (.included (ofItems own).blocks)]
        = search host keyword selected own := by
      intro selected
      rw [search_of_hostless hostless, ← nested, search, search, Option.or_none]
      rfl
    simp only [get_ofItems, search_append, alike, selectedBehind_of_hostless hostless, selectedBehind]

/-- A file with a remark and an include line of its own, named from within a block. -/
theorem get_spliced_nested :
    let content := "Port 7 # c\nInclude n\r".toList
    let files := FileSystem.holding ⟨"/e".toList⟩ (.ok (Text.utf8 content))
    let front := "Host a\n".toList
    let back := "Port 1".toList
    ∃ included spliced,
      parse files (front ++ ("Include ".toList ++ "/e".toList ++ '\n' :: back)) ⟨"/c".toList⟩ ⟨"/h".toList⟩
        = .ok included ∧
      parse files (front ++ (content ++ '\n' :: back)) ⟨"/c".toList⟩ ⟨"/h".toList⟩ = .ok spliced ∧
      ∀ keyword, included.get "a".toList keyword = spliced.get "a".toList keyword := by
  intro content files front back
  obtain ⟨included, one⟩ := exists_eq_ok_of_isOk (by decide +kernel :
    (parse files (front ++ ("Include ".toList ++ "/e".toList ++ '\n' :: back)) ⟨"/c".toList⟩ ⟨"/h".toList⟩).isOk = true)
  obtain ⟨spliced, two⟩ := exists_eq_ok_of_isOk (by decide +kernel :
    (parse files (front ++ (content ++ '\n' :: back)) ⟨"/c".toList⟩ ⟨"/h".toList⟩).isOk = true)
  have held : files.readText ⟨"/e".toList⟩ = .ok content :=
    FileSystem.readText_eq_ok_iff.mpr ⟨_, rfl, Utf8.decode_text _⟩
  have keywords : ∀ line ∈ Text.lines content,
      ¬ Text.SameLetters (keywordAndRest (Text.trim line)).1 "host".toList := by decide +kernel
  have noHost : ∀ line ∈ Text.lines content, ¬ HasKeyword line "host".toList := by
    rintro line member ⟨keyword, rest, said, named⟩
    refine keywords line member ?_
    rw [said.parts]
    exact named
  refine ⟨included, spliced, one, two, fun keyword => ?_⟩
  exact get_spliced (.inr rfl) rfl (by simp [Bare, Text.isBlank]) held noHost one two (Glob.matches_asterisk _) keyword

end Document

end SecureShell
