/-
Module: SecureShell.Text.Basic
Purpose: Text as a list of characters, cut into segments and lines. A line ends at a line feed, and a
  carriage return directly before that line feed belongs to the line end. Letter case is folded for the
  ASCII letters only, because that is how keywords are compared.
Main exports: Text, Text.segments, Text.lines, Text.EndsLine, Text.lower, Text.SameLetters,
  intercalate_segments, segments_append, segments_intercalate, lines_append_feed, lines_ended, lines_append,
  feed_not_mem_of_mem_lines
-/

namespace SecureShell

/-- Text is its list of characters, so that every scanner is a recursion on the data. -/
abbrev Text := List Char

namespace Text

/-- The pieces of a text between the separators, in order; there is always at least one. -/
def segments (separator : Char) : Text → List Text
  | [] => [[]]
  | c :: rest =>
      if c = separator then
        [] :: segments separator rest
      else
        match segments separator rest with
        | [] => [[c]]
        | first :: others => (c :: first) :: others

/-- A text always has a first segment. -/
theorem segments_ne_nil (separator : Char) (text : Text) : segments separator text ≠ [] := by
  cases text with
  | nil => simp [segments]
  | cons c rest =>
      simp only [segments]
      split
      · simp
      · split <;> simp

/-- Writing the separator between the segments gives the text back. -/
theorem intercalate_segments (separator : Char) (text : Text) :
    List.intercalate [separator] (segments separator text) = text := by
  induction text with
  | nil => rfl
  | cons c rest ih =>
      have nonempty := segments_ne_nil separator rest
      simp only [segments]
      cases cut : segments separator rest with
      | nil => exact absurd cut nonempty
      | cons first others =>
          rw [cut] at ih
          split
          · next same =>
            rw [← ih, same]
            simp [List.intercalate]
          · rw [← ih]
            cases others <;> simp [List.intercalate]

/-- A separator parts the segments in front of it from those behind it. -/
theorem segments_append (separator : Char) (front back : Text) :
    segments separator (front ++ separator :: back)
      = segments separator front ++ segments separator back := by
  induction front with
  | nil => simp [segments]
  | cons c front ih =>
      rw [List.cons_append, segments, segments, ih]
      by_cases same : c = separator
      · rw [if_pos same, if_pos same, List.cons_append]
      · rw [if_neg same, if_neg same]
        obtain ⟨first, others, cut⟩ := List.exists_cons_of_ne_nil (segments_ne_nil separator front)
        rw [cut]
        rfl

theorem segments_of_not_mem {separator : Char} {text : Text} (free : separator ∉ text) :
    segments separator text = [text] := by
  induction text with
  | nil => rfl
  | cons c text ih =>
      have different : c ≠ separator := fun same => free (same ▸ List.mem_cons_self)
      rw [segments, if_neg different, ih fun member => free (List.mem_cons_of_mem _ member)]

/-- Parts that do not hold the separator are the segments of what is written with it between them. -/
theorem segments_intercalate {separator : Char} {parts : List Text} (nonempty : parts ≠ [])
    (free : ∀ part ∈ parts, separator ∉ part) :
    segments separator (List.intercalate [separator] parts) = parts := by
  induction parts with
  | nil => exact absurd rfl nonempty
  | cons part rest ih =>
      cases rest with
      | nil => simpa [List.intercalate] using segments_of_not_mem (free part List.mem_cons_self)
      | cons next others =>
          have later := ih (List.cons_ne_nil next others) fun other member => free other (List.mem_cons_of_mem _ member)
          rw [List.intercalate_cons_cons, List.append_assoc, List.singleton_append, segments_append,
            segments_of_not_mem (free part List.mem_cons_self), later]
          rfl

/-- No segment holds the separator. -/
theorem not_mem_of_mem_segments {separator : Char} {text segment : Text}
    (member : segment ∈ segments separator text) : separator ∉ segment := by
  induction text generalizing segment with
  | nil =>
      obtain rfl : segment = [] := by simpa [segments] using member
      simp
  | cons c text ih =>
      obtain ⟨first, others, cut⟩ := List.exists_cons_of_ne_nil (segments_ne_nil separator text)
      rw [cut] at ih
      rw [segments, cut] at member
      by_cases same : c = separator
      · rw [if_pos same] at member
        rcases List.mem_cons.mp member with rfl | member
        · simp
        · exact ih member
      · rw [if_neg same] at member
        rcases List.mem_cons.mp member with rfl | member
        · simp [ih List.mem_cons_self, Ne.symm same]
        · exact ih (List.mem_cons_of_mem _ member)

/-- A line without the carriage return that precedes its line feed. -/
def withoutReturn (line : Text) : Text :=
  if line.getLast? = some '\r' then line.dropLast else line

/-- Every segment but the last was ended by a line feed; an empty last segment is no line. -/
def endedLines : List Text → List Text
  | [] => []
  | [last] => if last = [] then [] else [last]
  | line :: next :: rest => withoutReturn line :: endedLines (next :: rest)

/-- The lines of a text, without their line ends. -/
def lines (text : Text) : List Text :=
  endedLines (segments '\n' text)

/-- What stands in front of the first line feed is the first line. -/
theorem lines_append_feed {line : Text} (single : '\n' ∉ line) (rest : Text) :
    lines (line ++ '\n' :: rest) = withoutReturn line :: lines rest := by
  obtain ⟨next, later, cut⟩ := List.exists_cons_of_ne_nil (segments_ne_nil '\n' rest)
  rw [lines, segments_append, segments_of_not_mem single, lines, cut]
  rfl

/-- The lines of rows that are ended by a line feed each. -/
theorem lines_ended {rows : List Text} (single : ∀ row ∈ rows, '\n' ∉ row) :
    lines (rows.flatMap (· ++ ['\n'])) = rows.map withoutReturn := by
  induction rows with
  | nil => rfl
  | cons row rows ih =>
      have later := ih fun other member => single other (List.mem_cons_of_mem _ member)
      rw [List.flatMap_cons, List.append_assoc, List.singleton_append,
        lines_append_feed (single row List.mem_cons_self), later, List.map_cons]

/-- A line feed behind every part ends every part; what follows are the lines of the rest. -/
theorem endedLines_append (ended : List Text) {rest : List Text} (more : rest ≠ []) :
    endedLines (ended ++ rest) = ended.map withoutReturn ++ endedLines rest := by
  induction ended with
  | nil => rfl
  | cons part ended ih =>
      obtain ⟨next, later, following⟩ := List.exists_cons_of_ne_nil (List.append_ne_nil_of_right_ne_nil ended more)
      rw [List.cons_append, List.map_cons, List.cons_append, ← ih, following]
      rfl

theorem lines_feed (front back : Text) :
    lines (front ++ '\n' :: back) = (segments '\n' front).map withoutReturn ++ lines back := by
  rw [lines, segments_append, endedLines_append _ (segments_ne_nil '\n' back), lines]

/-- Whether what is written behind a text begins a new line. -/
def EndsLine (text : Text) : Prop :=
  text = [] ∨ text.getLast? = some '\n'

/-- Behind a line end the lines are those of the rest. -/
theorem lines_append {front : Text} (ended : EndsLine front) (back : Text) :
    lines (front ++ back) = lines front ++ lines back := by
  rcases ended with rfl | last
  · rfl
  · obtain ⟨content, rfl⟩ := List.getLast?_eq_some_iff.mp last
    have alone := lines_feed content []
    rw [show lines [] = [] from rfl, List.append_nil] at alone
    rw [List.append_assoc, List.singleton_append, lines_feed, alone]

theorem mem_of_mem_withoutReturn {line : Text} {c : Char} (member : c ∈ withoutReturn line) : c ∈ line := by
  unfold withoutReturn at member
  split at member
  · exact (List.dropLast_sublist line).mem member
  · exact member

/-- Every line comes from a segment between line feeds. -/
theorem exists_of_mem_endedLines {parts : List Text} {line : Text} (member : line ∈ endedLines parts) :
    ∃ part ∈ parts, line = part ∨ line = withoutReturn part := by
  induction parts with
  | nil => cases member
  | cons first others ih =>
      cases others with
      | nil =>
          by_cases empty : first = []
          · simp [endedLines, empty] at member
          · exact ⟨first, List.mem_cons_self, .inl (by simpa [endedLines, empty] using member)⟩
      | cons next later =>
          rcases List.mem_cons.mp member with rfl | member
          · exact ⟨first, List.mem_cons_self, .inr rfl⟩
          · obtain ⟨part, present, same⟩ := ih member
            exact ⟨part, List.mem_cons_of_mem _ present, same⟩

/-- No line holds a line feed. -/
theorem feed_not_mem_of_mem_lines {text line : Text} (member : line ∈ lines text) : '\n' ∉ line := by
  obtain ⟨part, present, rfl | rfl⟩ := exists_of_mem_endedLines member
  · exact not_mem_of_mem_segments present
  · exact fun held => not_mem_of_mem_segments present (mem_of_mem_withoutReturn held)

/-- ASCII capitals become small letters; every other character stays. -/
def lower (text : Text) : Text :=
  text.map Char.toLower

/-- Two texts that differ at most in the case of ASCII letters. -/
def SameLetters (left right : Text) : Prop :=
  lower left = lower right

instance (left right : Text) : Decidable (SameLetters left right) :=
  inferInstanceAs (Decidable (lower left = lower right))

/-- The text after a character that may stand in front of it. -/
def afterOptional (c : Char) : Text → Text
  | [] => []
  | first :: rest => if first = c then rest else first :: rest

theorem afterOptional_sublist (c : Char) (text : Text) : (afterOptional c text).Sublist text := by
  cases text with
  | nil => exact .slnil
  | cons first rest =>
      rw [afterOptional]
      split
      · exact List.sublist_cons_self first rest
      · exact List.Sublist.refl _

end Text

end SecureShell
