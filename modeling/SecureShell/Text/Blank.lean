/-
Module: SecureShell.Text.Blank
Purpose: Blank characters, that is the Unicode property White_Space, and the removal of blanks at the
  ends of a text.
Main exports: Text.isBlank, Text.trimStart, Text.trimEnd, Text.trim, Text.trimStart_append, Text.trimEnd_append,
  Text.trim_blank_append, Text.trim_append_blank, Text.trim_withoutReturn
-/
import SecureShell.Text.Basic

namespace SecureShell.Text

/-- The characters with the Unicode property White_Space. -/
def isBlank (c : Char) : Bool :=
  let code := c.toNat
  (9 ≤ code && code ≤ 13) || code == 0x20 || code == 0x85 || code == 0xA0 || code == 0x1680
    || (0x2000 ≤ code && code ≤ 0x200A) || code == 0x2028 || code == 0x2029 || code == 0x202F
    || code == 0x205F || code == 0x3000

/-- The blanks are twenty-five characters. -/
theorem isBlank_iff {c : Char} :
    isBlank c = true ↔ c ∈ ['\t', '\n', '\x0b', '\x0c', '\r', ' ', '\u0085', '\u00a0', '\u1680', '\u2000', '\u2001',
      '\u2002', '\u2003', '\u2004', '\u2005', '\u2006', '\u2007', '\u2008', '\u2009', '\u200a', '\u2028', '\u2029',
      '\u202f', '\u205f', '\u3000'] := by
  simp only [isBlank, List.mem_cons, List.not_mem_nil, or_false, ← Char.toNat_inj, Bool.or_eq_true, Bool.and_eq_true,
    decide_eq_true_eq, beq_iff_eq, Char.reduceToNat]
  omega

/-- A blank is none of the characters that are shown. -/
theorem ne_of_blank {c d : Char} (blank : isBlank c = true) (shown : isBlank d = false) : c ≠ d := by
  rintro rfl
  rw [blank] at shown
  cases shown

/-- A text without the blanks in front. -/
def trimStart (text : Text) : Text :=
  text.dropWhile isBlank

/-- What is trimmed off the start is blank. -/
theorem mem_takeWhile_blank {text : Text} : ∀ c ∈ text.takeWhile isBlank, isBlank c = true :=
  List.all_eq_true.mp List.all_takeWhile

theorem not_mem_takeWhile_blank {c : Char} (shown : isBlank c = false) (text : Text) : c ∉ text.takeWhile isBlank :=
  fun member => ne_of_blank (mem_takeWhile_blank c member) shown rfl

/-- A text without the blanks at its end. -/
def trimEnd : Text → Text
  | [] => []
  | c :: rest =>
      match trimEnd rest with
      | [] => if isBlank c then [] else [c]
      | kept => c :: kept

/-- A text without the blanks at both ends. -/
def trim (text : Text) : Text :=
  trimEnd (trimStart text)

/-- What is cut off at the end is blank. -/
theorem trimEnd_append_blank (text : Text) :
    ∃ cut, text = trimEnd text ++ cut ∧ ∀ c ∈ cut, isBlank c = true := by
  induction text with
  | nil => exact ⟨[], rfl, by simp⟩
  | cons c rest ih =>
      obtain ⟨cut, same, blank⟩ := ih
      simp only [trimEnd]
      cases kept : trimEnd rest with
      | nil =>
          rw [kept] at same
          by_cases isSpace : isBlank c = true
          · refine ⟨c :: cut, by simp [isSpace, same], ?_⟩
            intro x member
            rcases List.mem_cons.mp member with rfl | member
            · exact isSpace
            · exact blank x member
          · exact ⟨cut, by simp [isSpace, same], blank⟩
      | cons first others =>
          rw [kept] at same
          exact ⟨cut, by simp [same], blank⟩

theorem trimEnd_sublist (text : Text) : (trimEnd text).Sublist text := by
  obtain ⟨cut, whole, -⟩ := trimEnd_append_blank text
  have front := List.sublist_append_left (trimEnd text) cut
  rwa [← whole] at front

theorem trim_sublist (text : Text) : (trim text).Sublist text :=
  (trimEnd_sublist _).trans (List.dropWhile_sublist _)

/-- Nothing that is left ends in a blank. -/
theorem getLast_trimEnd (text : Text) :
    ∀ c, (trimEnd text).getLast? = some c → isBlank c = false := by
  induction text with
  | nil => simp [trimEnd]
  | cons c rest ih =>
      intro last
      simp only [trimEnd]
      cases kept : trimEnd rest with
      | nil =>
          by_cases isSpace : isBlank c = true
          · simp [isSpace]
          · intro same
            simp [isSpace] at same
            simpa [← same] using isSpace
      | cons first others =>
          rw [kept] at ih
          intro same
          exact ih last (by simpa [List.getLast?_cons_cons] using same)

/-- Blanks in front make no difference. -/
theorem trimStart_blank_append {gap : Text} (blank : ∀ c ∈ gap, isBlank c = true) (text : Text) :
    trimStart (gap ++ text) = trimStart text :=
  List.dropWhile_append_of_pos blank

theorem trimStart_cons_of_not {c : Char} (shown : isBlank c = false) (text : Text) :
    trimStart (c :: text) = c :: text :=
  List.dropWhile_cons_of_neg (by simp [shown])

/-- Trimming the start of two texts in a row: the first decides whether the second is reached. -/
theorem trimStart_append (front back : Text) :
    trimStart (front ++ back) = if trimStart front = [] then trimStart back else trimStart front ++ back := by
  rw [trimStart, List.dropWhile_append, trimStart, trimStart]
  simp only [List.isEmpty_iff]

/-- Blanks in front end where something is shown at the latest. -/
theorem trimStart_append_cons {c : Char} (shown : isBlank c = false) (text rest : Text) :
    trimStart (text ++ c :: rest) = trimStart text ++ c :: rest := by
  rw [trimStart_append]
  split
  · next empty => rw [empty, trimStart_cons_of_not shown, List.nil_append]
  · rfl

/-- Nothing that is left begins with a blank. -/
theorem head_trimStart {text : Text} {c : Char} (head : (trimStart text).head? = some c) :
    isBlank c = false := by
  induction text with
  | nil => simp [trimStart] at head
  | cons first rest ih =>
      by_cases blank : isBlank first = true
      · exact ih (by simpa [trimStart, blank] using head)
      · have same : first = c := by simpa [trimStart, blank] using head
        simpa [same] using blank

/-- Trimming the end of two texts in a row: the second decides whether the first is reached. -/
theorem trimEnd_append (front back : Text) :
    trimEnd (front ++ back) = if trimEnd back = [] then trimEnd front else front ++ trimEnd back := by
  induction front with
  | nil =>
      by_cases empty : trimEnd back = []
      · simp [empty, trimEnd]
      · simp [empty]
  | cons c front ih =>
      rw [List.cons_append, trimEnd, ih]
      by_cases empty : trimEnd back = []
      · simp only [if_pos empty]
        rfl
      · simp only [if_neg empty]
        cases kept : front ++ trimEnd back with
        | nil => exact absurd (List.append_eq_nil_iff.mp kept).2 empty
        | cons first others => simp [← kept]

theorem trimEnd_of_blank {gap : Text} (blank : ∀ c ∈ gap, isBlank c = true) : trimEnd gap = [] := by
  induction gap with
  | nil => rfl
  | cons c gap ih =>
      simp [trimEnd, ih fun d member => blank d (List.mem_cons_of_mem _ member),
        blank c List.mem_cons_self]

/-- A text that ends in no blank is left as it is. -/
theorem trimEnd_of_last {text : Text} (shown : ∀ c, text.getLast? = some c → isBlank c = false) :
    trimEnd text = text := by
  rcases List.eq_nil_or_concat text with rfl | ⟨front, c, rfl⟩
  · rfl
  · have last : trimEnd [c] = [c] := by simp [trimEnd, shown c (by simp)]
    simp [List.concat_eq_append, trimEnd_append, last]

/-- A text that begins with no blank still begins so when its end is trimmed. -/
theorem trimEnd_cons_of_not {c : Char} (shown : isBlank c = false) (text : Text) :
    trimEnd (c :: text) = c :: trimEnd text := by
  simp only [trimEnd, shown]
  cases trimEnd text <;> rfl

theorem trim_blank_append {gap : Text} (blank : ∀ c ∈ gap, isBlank c = true) (text : Text) :
    trim (gap ++ text) = trim text := by
  simp only [trim, trimStart_blank_append blank]

theorem trim_of_blank {gap : Text} (blank : ∀ c ∈ gap, isBlank c = true) : trim gap = [] := by
  simpa [trim, trimStart, trimEnd] using trim_blank_append blank []

theorem trim_append_blank (text : Text) {gap : Text} (blank : ∀ c ∈ gap, isBlank c = true) :
    trim (text ++ gap) = trim text := by
  induction text with
  | nil =>
      rw [List.nil_append, trim_of_blank blank]
      rfl
  | cons c text ih =>
      by_cases isSpace : isBlank c = true
      · have single : ∀ d ∈ [c], isBlank d = true := by simp [isSpace]
        have front := trim_blank_append single (text ++ gap)
        have back := trim_blank_append single text
        simpa [ih] using front.trans (ih.trans back.symm)
      · have shown : isBlank c = false := by simpa using isSpace
        simp only [trim, List.cons_append, trimStart_cons_of_not shown]
        rw [← List.cons_append, trimEnd_append, if_pos (trimEnd_of_blank blank)]

/-- What is left begins with no blank. -/
theorem head_trim {text : Text} {c : Char} (head : (trim text).head? = some c) :
    isBlank c = false := by
  cases start : trimStart text with
  | nil => simp [trim, start, trimEnd] at head
  | cons first rest =>
      have left : (trimStart text).head? = some first := by rw [start]; rfl
      have shown := head_trimStart left
      rw [trim, start, trimEnd_cons_of_not shown] at head
      obtain rfl : first = c := by simpa using head
      exact shown

/-- A carriage return at the end of a line is a blank like any other. -/
theorem trim_withoutReturn (line : Text) : trim (withoutReturn line) = trim line := by
  unfold withoutReturn
  split
  · next last =>
    obtain ⟨front, rfl⟩ := List.getLast?_eq_some_iff.mp last
    rw [List.dropLast_concat, trim_append_blank front (by simp [isBlank])]
  · rfl

end SecureShell.Text
