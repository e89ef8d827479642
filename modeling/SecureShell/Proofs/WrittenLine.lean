/-
Module: SecureShell.Proofs.WrittenLine
Purpose: A line that is written as an indent, a keyword, a divider and a body. A divider is blanks, or an equals
  sign with blanks around it that there may be. The reader takes such a line apart into just that keyword and
  that body, the blanks at the end of the body aside.
Main exports: Indent, Gap, Divider, Leads, Leads.of_sameLetters, Solid, Divider.taken, Leads.said
-/
import SecureShell.Proofs.LineGrammar

namespace SecureShell

open Directive

/-! ### Between the words of a line -/

/-- Blanks within a line. -/
structure Indent where
  text : Text
  blank : ∀ c ∈ text, Text.isBlank c = true
  single : '\n' ∉ text

/-- Blanks within a line, one at least. -/
structure Gap extends Indent where
  nonempty : text ≠ []

theorem Gap.exists_cons (gap : Gap) :
    ∃ c blanks, gap.text = c :: blanks ∧ Text.isBlank c = true ∧ ∀ d ∈ blanks, Text.isBlank d = true := by
  obtain ⟨c, blanks, text⟩ := List.exists_cons_of_ne_nil gap.nonempty
  have all := gap.blank
  rw [text] at all
  exact ⟨c, blanks, text, all c List.mem_cons_self, fun d member => all d (List.mem_cons_of_mem _ member)⟩

/-- What stands between a keyword and its value. -/
inductive Divider where
  | blanks (gap : Gap)
  | equals (before after : Indent)

def Divider.text : Divider → Text
  | .blanks gap => gap.text
  | .equals before after => before.text ++ '=' :: after.text

/-- A text that is read as a keyword wherever it stands at the beginning of a line. -/
structure Leads (keyword : Text) : Prop where
  nonempty : keyword ≠ []
  bare : ∀ c ∈ keyword, endsKeyword c = false
  shown : keyword.head? ≠ some '#'

/-- A character that ends a keyword is no capital. -/
theorem toLower_of_endsKeyword {c : Char} (ends : endsKeyword c = true) : c.toLower = c := by
  have small : ¬ ('A'.val ≤ c.val ∧ c.val ≤ 'Z'.val) := by
    simp only [endsKeyword, Text.isBlank, Char.toNat, Bool.or_eq_true, Bool.and_eq_true, decide_eq_true_eq,
      beq_iff_eq] at ends
    have first : 'A'.val.toNat = 65 := rfl
    have last : 'Z'.val.toNat = 90 := rfl
    have sign : '='.val.toNat = 61 := rfl
    rw [UInt32.le_iff_toNat_le, UInt32.le_iff_toNat_le]
    rcases ends with blank | rfl <;> omega
  exact dif_neg small

/-- A keyword leads its line in every spelling, if it does so in small letters. -/
theorem Leads.of_sameLetters {keyword name : Text} (leads : Leads name) (small : Text.lower name = name)
    (named : Text.SameLetters keyword name) : Leads keyword := by
  have folded : Text.lower keyword = name := (lower_eq_iff small).mpr named
  refine ⟨?_, ?_, ?_⟩
  · rintro rfl
    exact leads.nonempty folded.symm
  · intro c member
    refine Bool.eq_false_iff.mpr fun ends => ?_
    have here : c.toLower ∈ Text.lower keyword := List.mem_map_of_mem member
    rw [toLower_of_endsKeyword ends, folded] at here
    exact absurd ends (by simp [leads.bare c here])
  · intro head
    refine leads.shown ?_
    rw [← folded, Text.lower, List.head?_map, head]
    rfl

/-! ### Keyword and rest -/

/-- The rest of a line begins with a character that is neither blank nor an equals sign. -/
def Solid (body : Text) : Prop :=
  ∃ c rest, body = c :: rest ∧ Text.isBlank c = false ∧ c ≠ '='

theorem Solid.trimEnd {body : Text} (solid : Solid body) : Solid (Text.trimEnd body) := by
  obtain ⟨c, rest, rfl, shown, different⟩ := solid
  exact ⟨c, Text.trimEnd rest, Text.trimEnd_cons_of_not shown rest, shown, different⟩

theorem Solid.trimStart_eq {body : Text} (solid : Solid body) : Text.trimStart body = body := by
  obtain ⟨c, rest, rfl, shown, _⟩ := solid
  exact Text.trimStart_cons_of_not shown rest

theorem Solid.append {body : Text} (solid : Solid body) (more : Text) : Solid (body ++ more) := by
  obtain ⟨c, rest, rfl, shown, different⟩ := solid
  exact ⟨c, rest ++ more, rfl, shown, different⟩

theorem Solid.ne_nil {body : Text} (solid : Solid body) : body ≠ [] := by
  obtain ⟨c, rest, rfl, _⟩ := solid
  exact List.cons_ne_nil c rest

/-- A divider begins with a character that ends the keyword. -/
theorem Divider.head (divider : Divider) :
    ∃ c rest, divider.text = c :: rest ∧ endsKeyword c = true := by
  cases divider with
  | blanks gap =>
      obtain ⟨c, rest, text, blank, _⟩ := gap.exists_cons
      exact ⟨c, rest, text, by simp [endsKeyword, blank]⟩
  | equals before after =>
      cases text : before.text with
      | nil => exact ⟨'=', after.text, by simp [Divider.text, text], by decide⟩
      | cons c rest =>
          have blank : Text.isBlank c = true := before.blank c (by simp [text])
          exact ⟨c, rest ++ '=' :: after.text, by simp [Divider.text, text], by simp [endsKeyword, blank]⟩

/-- What a divider divides from the keyword is left when the divider is taken off. -/
theorem Divider.taken (divider : Divider) {body : Text} (solid : Solid body)
    (trimmed : Text.trimEnd body = body) :
    Text.trim (Text.afterOptional '=' (Text.trimStart (divider.text ++ body))) = body := by
  have whole : Text.trim body = body := by rw [Text.trim, solid.trimStart_eq, trimmed]
  cases divider with
  | blanks gap =>
      obtain ⟨c, rest, rfl, shown, different⟩ := solid
      rw [Divider.text, Text.trimStart_blank_append gap.blank, Text.trimStart_cons_of_not shown,
        Text.afterOptional, if_neg different]
      exact whole
  | equals before after =>
      rw [Divider.text, List.append_assoc, Text.trimStart_blank_append before.blank, List.cons_append,
        Text.trimStart_cons_of_not (by decide), Text.afterOptional, if_pos rfl,
        Text.trim_blank_append after.blank]
      exact whole

/-- The keyword ends where the divider begins. -/
theorem Leads.keywordAndRest_eq {keyword : Text} (leads : Leads keyword) (divider : Divider) {body : Text}
    (solid : Solid body) (trimmed : Text.trimEnd body = body) :
    keywordAndRest (keyword ++ (divider.text ++ body)) = (keyword, body) := by
  have bare : ∀ c ∈ keyword, (!endsKeyword c) = true := fun c member => by simp [leads.bare c member]
  obtain ⟨d, later, divided, ends⟩ := divider.head
  have front : (keyword ++ (divider.text ++ body)).takeWhile (fun c => !endsKeyword c) = keyword := by
    rw [List.takeWhile_append_of_pos bare, divided]
    simp [ends]
  have behind : (keyword ++ (divider.text ++ body)).dropWhile (fun c => !endsKeyword c)
      = divider.text ++ body := by
    rw [List.dropWhile_append_of_pos bare, divided]
    simp [ends]
  rw [keywordAndRest, front, behind, divider.taken solid trimmed]

/-- A line that is written as indent, keyword, divider and body says the keyword and the body. -/
theorem Leads.said {keyword : Text} (leads : Leads keyword) (indent : Indent) (divider : Divider)
    {body : Text} (solid : Solid body) :
    Says (indent.text ++ keyword ++ divider.text ++ body) keyword (Text.trimEnd body) := by
  obtain ⟨c, rest, head⟩ := List.exists_cons_of_ne_nil leads.nonempty
  have shown : Text.isBlank c = false := by
    have bare := leads.bare c (by simp [head])
    simp only [endsKeyword, Bool.or_eq_false_iff] at bare
    exact bare.1
  have left := solid.trimEnd.ne_nil
  have trimmed : Text.trim (indent.text ++ keyword ++ divider.text ++ body)
      = keyword ++ (divider.text ++ Text.trimEnd body) := by
    rw [List.append_assoc, List.append_assoc, Text.trim_blank_append indent.blank, head, List.cons_append,
      Text.trim, Text.trimStart_cons_of_not shown, ← List.cons_append, ← List.append_assoc,
      Text.trimEnd_append, if_neg left, List.append_assoc]
  constructor
  · rintro (empty | comment)
    · rw [trimmed, head] at empty
      cases empty
    · rw [trimmed, head] at comment
      exact leads.shown (by simpa [head] using comment)
  · rw [trimmed]
    exact leads.keywordAndRest_eq divider solid.trimEnd (Text.trimEnd_of_last (Text.getLast_trimEnd body))

end SecureShell
