/-
Module: SecureShell.Proofs.TrailingRemarks
Purpose: A remark begins at the first number sign of a line that stands behind a blank and outside quotes, and it can
  be taken away from every line but a proxy command, as long as there is something in front of it that is more than
  a keyword. The search for the remark begins behind the keyword, its divider and their blanks: it counts no quotes
  of the keyword, and a number sign that comes first there stands behind no blank that it knows of. A remark directly
  behind the keyword is therefore taken for the value.
Main exports: Directive.OpenToRemark, Directive.beforeComment_eq_some_iff, Directive.RemarkBehind,
  Directive.remarkBehind_iff, Directive.TakesRemark, Directive.RemarkBehind.ofLine_eq,
  Directive.RemarkBehind.ofLine_valueless, Surrounds, Document.parse_withoutRemark
-/
import SecureShell.Proofs.CallerHistory
import SecureShell.Proofs.ReadingParts
import SecureShell.Proofs.Rendering

namespace SecureShell

namespace Directive

/-! ### Where a remark begins -/

/-- A number sign that comes next begins a remark: every quote is closed, and the last character is blank.
`inQuotes` and `afterBlank` say what came before the text. -/
structure OpenToRemark (inQuotes afterBlank : Bool) (text : Text) : Prop where
  closed : (inQuotes.toNat + text.count '"') % 2 = 0
  behindBlank : (text.getLast?.map Text.isBlank).getD afterBlank = true

theorem openToRemark_nil (inQuotes afterBlank : Bool) :
    OpenToRemark inQuotes afterBlank [] ↔ afterBlank = true ∧ inQuotes = false := by
  constructor
  · rintro ⟨closed, behindBlank⟩
    refine ⟨behindBlank, ?_⟩
    cases inQuotes with
    | false => rfl
    | true => cases closed
  · rintro ⟨rfl, rfl⟩
    exact ⟨rfl, rfl⟩

theorem openToRemark_cons (inQuotes afterBlank : Bool) (c : Char) (text : Text) :
    OpenToRemark inQuotes afterBlank (c :: text) ↔
      OpenToRemark (inQuotes ^^ decide (c = '"')) (Text.isBlank c) text := by
  have quotes : (inQuotes.toNat + (c :: text).count '"') % 2 = 0 ↔
      ((inQuotes ^^ decide (c = '"')).toNat + text.count '"') % 2 = 0 := by
    by_cases quote : c = '"'
    · rw [quote, List.count_cons_self]
      cases inQuotes <;> simp <;> omega
    · rw [List.count_cons_of_ne quote, decide_eq_false quote, Bool.xor_false]
  have last : (((c :: text).getLast?.map Text.isBlank).getD afterBlank) =
      ((text.getLast?.map Text.isBlank).getD (Text.isBlank c)) := by
    rw [List.getLast?_cons]
    cases text.getLast? <;> rfl
  constructor
  · rintro ⟨closed, behindBlank⟩
    exact ⟨quotes.mp closed, last ▸ behindBlank⟩
  · rintro ⟨closed, behindBlank⟩
    exact ⟨quotes.mpr closed, last ▸ behindBlank⟩

/-- Closed quotes in front of a text make no difference to what may follow it. -/
theorem openToRemark_append {head inner : Text} (closed : Balanced head) (value : inner ≠ []) :
    OpenToRemark false false (head ++ inner) ↔ OpenToRemark false false inner := by
  have quotes : (false.toNat + (head ++ inner).count '"') % 2 = 0 ↔ (false.toNat + inner.count '"') % 2 = 0 := by
    simp only [Balanced] at closed
    rw [List.count_append]
    omega
  have last : (head ++ inner).getLast? = inner.getLast? := by
    obtain ⟨front, c, rfl⟩ := (List.eq_nil_or_concat inner).resolve_left value
    simp
  constructor
  · rintro ⟨even, behindBlank⟩
    exact ⟨quotes.mp even, last ▸ behindBlank⟩
  · rintro ⟨even, behindBlank⟩
    exact ⟨quotes.mpr even, last ▸ behindBlank⟩

/-- No remark is found exactly if no number sign begins one. -/
theorem beforeComment_eq_none_iff (inQuotes afterBlank : Bool) (text : Text) :
    beforeComment inQuotes afterBlank text = none ↔
      ∀ front behind, text = front ++ '#' :: behind → ¬ OpenToRemark inQuotes afterBlank front := by
  induction text generalizing inQuotes afterBlank with
  | nil => simp [beforeComment]
  | cons c text ih =>
      rw [beforeComment]
      by_cases begins : c = '#' ∧ afterBlank = true ∧ inQuotes = false
      · rw [if_pos begins]
        refine iff_of_false (Option.some_ne_none _) fun none => ?_
        exact none [] text (by rw [begins.1]; rfl) ((openToRemark_nil _ _).mpr begins.2)
      · rw [if_neg begins, Option.map_eq_none_iff, ih]
        constructor
        · intro later front behind split opened
          cases front with
          | nil =>
              obtain ⟨rfl, rfl⟩ := List.cons.inj split
              exact begins ⟨rfl, (openToRemark_nil _ _).mp opened⟩
          | cons first front =>
              obtain ⟨rfl, rfl⟩ := List.cons.inj split
              exact later front behind rfl ((openToRemark_cons _ _ _ _).mp opened)
        · rintro none front behind rfl opened
          exact none (c :: front) behind rfl ((openToRemark_cons _ _ _ _).mpr opened)

/-- What is kept in front of a remark is open to it and holds no other. -/
theorem beforeComment_eq_some_iff (inQuotes afterBlank : Bool) (text kept : Text) :
    beforeComment inQuotes afterBlank text = some kept ↔
      (∃ remark, text = kept ++ '#' :: remark) ∧ OpenToRemark inQuotes afterBlank kept ∧
        beforeComment inQuotes afterBlank kept = none := by
  induction text generalizing inQuotes afterBlank kept with
  | nil => simp [beforeComment]
  | cons c text ih =>
      rw [beforeComment]
      by_cases begins : c = '#' ∧ afterBlank = true ∧ inQuotes = false
      · rw [if_pos begins, Option.some.injEq]
        constructor
        · rintro rfl
          exact ⟨⟨text, by rw [begins.1]; rfl⟩, (openToRemark_nil _ _).mpr begins.2, rfl⟩
        · rintro ⟨⟨remark, split⟩, -, none⟩
          cases kept with
          | nil => rfl
          | cons first kept =>
              obtain ⟨rfl, -⟩ := List.cons.inj split
              rw [beforeComment, if_pos begins] at none
              cases none
      · rw [if_neg begins]
        cases kept with
        | nil =>
            refine iff_of_false (by simp) ?_
            rintro ⟨⟨remark, split⟩, opened, -⟩
            obtain ⟨rfl, -⟩ := List.cons.inj split
            exact begins ⟨rfl, (openToRemark_nil _ _).mp opened⟩
        | cons first kept =>
            by_cases same : first = c
            · subst same
              simp [beforeComment, begins, ih, openToRemark_cons inQuotes]
            · simp [Ne.symm same]

/-- A line has a remark behind what is kept: the remark begins at the first number sign that follows a blank and lies
outside double quotes. -/
structure RemarkBehind (line kept : Text) : Prop where
  begins : ∃ remark, line = kept ++ '#' :: remark
  opened : OpenToRemark false false kept
  first : ∀ front behind, kept = front ++ '#' :: behind → ¬ OpenToRemark false false front

/-- The search for a remark finds what stands in front of it. -/
theorem remarkBehind_iff (line kept : Text) :
    RemarkBehind line kept ↔ beforeComment false false line = some kept := by
  rw [beforeComment_eq_some_iff, beforeComment_eq_none_iff]
  exact ⟨fun ⟨begins, opened, first⟩ => ⟨begins, opened, first⟩,
    fun ⟨begins, opened, first⟩ => ⟨begins, opened, first⟩⟩

/-! ### The parts of a line with a number sign in it -/

/-- What follows a keyword, without the divider in front of it. -/
def undivided (behind : Text) : Text :=
  Text.trimStart (Text.afterOptional '=' (Text.trimStart behind))

theorem keywordAndRest_eq (line : Text) :
    keywordAndRest line = (line.takeWhile fun c => !endsKeyword c,
      Text.trimEnd (undivided (line.dropWhile fun c => !endsKeyword c))) :=
  rfl

theorem undivided_sign (behind remark : Text) :
    undivided (behind ++ '#' :: remark) = undivided behind ++ '#' :: remark := by
  rw [undivided, undivided, Text.trimStart_append_cons (by decide)]
  cases Text.trimStart behind with
  | nil => rfl
  | cons c rest =>
      rw [List.cons_append, Text.afterOptional, Text.afterOptional]
      by_cases equals : c = '='
      · rw [if_pos equals, if_pos equals, Text.trimStart_append_cons (by decide)]
      · rw [if_neg equals, if_neg equals, ← List.cons_append, Text.trimStart_append_cons (by decide)]

/-- A divider has no quotes. -/
theorem exists_divider (behind : Text) : ∃ divider, behind = divider ++ undivided behind ∧ '"' ∉ divider := by
  have cut : ∀ text : Text, text = text.takeWhile Text.isBlank ++ Text.trimStart text := fun text =>
    List.takeWhile_append_dropWhile.symm
  have sign : ∃ equals, Text.trimStart behind = equals ++ Text.afterOptional '=' (Text.trimStart behind) ∧
      '"' ∉ equals := by
    cases Text.trimStart behind with
    | nil => exact ⟨[], rfl, by simp⟩
    | cons c rest =>
        by_cases equals : c = '='
        · exact ⟨['='], by simp [Text.afterOptional, equals], by decide⟩
        · exact ⟨[], by simp [Text.afterOptional, equals], by simp⟩
  obtain ⟨equals, split, unquoted⟩ := sign
  refine ⟨behind.takeWhile Text.isBlank ++ (equals ++
    (Text.afterOptional '=' (Text.trimStart behind)).takeWhile Text.isBlank), ?_, ?_⟩
  · rw [List.append_assoc, List.append_assoc, undivided, ← cut, ← split, ← cut]
  · simp [Text.not_mem_takeWhile_blank (c := '"') (by decide), unquoted]

/-- Blanks at the end are trimmed off with or without a divider. -/
theorem trimEnd_undivided_append (behind : Text) {gap : Text} (blank : ∀ c ∈ gap, Text.isBlank c = true) :
    Text.trimEnd (undivided (behind ++ gap)) = Text.trimEnd (undivided behind) := by
  have gone : Text.trimStart gap = [] := by
    rw [← List.append_nil gap, Text.trimStart_blank_append blank]
    rfl
  rw [undivided, undivided, Text.trimStart_append, gone]
  cases Text.trimStart behind with
  | nil => rfl
  | cons c rest =>
      rw [if_neg (List.cons_ne_nil c rest), List.cons_append, Text.afterOptional, Text.afterOptional]
      by_cases equals : c = '='
      · rw [if_pos equals, if_pos equals]
        exact Text.trim_append_blank rest blank
      · rw [if_neg equals, if_neg equals]
        exact Text.trim_append_blank (c :: rest) blank

/-- A keyword that ends in the first of two texts, or where the second begins, is not changed by the second. -/
theorem keyword_append {line more : Text}
    (ends : (∃ c ∈ line, endsKeyword c = true) ∨ ∀ c, more.head? = some c → endsKeyword c = true) :
    ((line ++ more).takeWhile fun c => !endsKeyword c) = (line.takeWhile fun c => !endsKeyword c) ∧
      ((line ++ more).dropWhile fun c => !endsKeyword c) = (line.dropWhile fun c => !endsKeyword c) ++ more := by
  induction line with
  | nil =>
      have first : ∀ c, more.head? = some c → endsKeyword c = true := by simpa using ends
      cases more with
      | nil => exact ⟨rfl, rfl⟩
      | cons c more => simp [first c rfl]
  | cons c line ih =>
      cases here : endsKeyword c with
      | true => simp [here]
      | false =>
          obtain ⟨same, behind⟩ := ih (by simpa [here] using ends)
          simp [here, same, behind]

/-- Blanks at the end of a line belong neither to the keyword nor to the rest. -/
theorem keywordAndRest_append_blank (line : Text) {gap : Text} (blank : ∀ c ∈ gap, Text.isBlank c = true) :
    keywordAndRest (line ++ gap) = keywordAndRest line := by
  have first : ∀ c, gap.head? = some c → endsKeyword c = true := by
    intro c head
    rw [endsKeyword, blank c (List.mem_of_head? head), Bool.true_or]
  obtain ⟨keyword, behind⟩ := keyword_append (.inr first : (∃ c ∈ line, endsKeyword c = true) ∨ _)
  rw [keywordAndRest_eq, keywordAndRest_eq, keyword, behind, trimEnd_undivided_append _ blank]

theorem silent_iff (line : Text) :
    Silent line ↔ Text.trimStart line = [] ∨ (Text.trimStart line).head? = some '#' := by
  rw [Silent, Text.trim]
  cases start : Text.trimStart line with
  | nil => simp [Text.trimEnd]
  | cons c rest =>
      have shown : Text.isBlank c = false := Text.head_trimStart (by rw [start]; rfl)
      rw [Text.trimEnd_cons_of_not shown]
      simp

/-- A remark gives a line no content and takes none from it. -/
theorem silent_remark (kept remark : Text) : Silent (kept ++ '#' :: remark) ↔ Silent kept := by
  rw [silent_iff, silent_iff, Text.trimStart_append_cons (by decide)]
  cases Text.trimStart kept <;> simp

/-- The keyword that a line begins with. -/
def keywordOf (line : Text) : Text :=
  (Text.trimStart line).takeWhile fun c => !endsKeyword c

/-- What a line has behind its keyword and the divider, with the blanks at its end. -/
def bodyOf (line : Text) : Text :=
  undivided ((Text.trimStart line).dropWhile fun c => !endsKeyword c)

theorem keywordAndRest_trim (line : Text) :
    keywordAndRest (Text.trim line) = (keywordOf line, Text.trimEnd (bodyOf line)) := by
  obtain ⟨gap, whole, blank⟩ := Text.trimEnd_append_blank (Text.trimStart line)
  rw [Text.trim, ← keywordAndRest_append_blank _ blank, ← whole]
  rfl

/-- The quotes in front of a body are those of the keyword. -/
theorem exists_head (line : Text) :
    ∃ head, line = head ++ bodyOf line ∧ head.count '"' = (keywordOf line).count '"' := by
  obtain ⟨divider, split, unquoted⟩ := exists_divider ((Text.trimStart line).dropWhile fun c => !endsKeyword c)
  refine ⟨line.takeWhile Text.isBlank ++ (keywordOf line ++ divider), ?_, ?_⟩
  · rw [List.append_assoc, List.append_assoc, bodyOf, ← split, keywordOf, List.takeWhile_append_dropWhile,
      Text.trimStart, List.takeWhile_append_dropWhile]
  · rw [List.count_append, List.count_append, List.count_eq_zero.mpr (Text.not_mem_takeWhile_blank (by decide) line),
      List.count_eq_zero.mpr unquoted, Nat.zero_add, Nat.add_zero]

/-- The blank in front of a remark ends the keyword at the latest. -/
theorem OpenToRemark.exists_endsKeyword {kept : Text} (opened : OpenToRemark false false kept)
    (speaks : ¬ Silent kept) : ∃ c ∈ Text.trimStart kept, endsKeyword c = true := by
  have shown : Text.trimStart kept ≠ [] := fun empty => speaks ((silent_iff kept).mpr (.inl empty))
  obtain ⟨front, last, whole⟩ := (List.eq_nil_or_concat (Text.trimStart kept)).resolve_left shown
  have same : kept = kept.takeWhile Text.isBlank ++ (front ++ [last]) := by
    rw [← List.concat_eq_append, ← whole, Text.trimStart, List.takeWhile_append_dropWhile]
  have blank := opened.behindBlank
  rw [same, ← List.append_assoc, List.getLast?_concat] at blank
  refine ⟨last, by simp [whole], ?_⟩
  rw [endsKeyword, show Text.isBlank last = true from blank, Bool.true_or]

/-- A number sign behind the keyword and what it begins belong to the body. -/
theorem parts_sign {kept : Text} (ends : ∃ c ∈ Text.trimStart kept, endsKeyword c = true) (remark : Text) :
    keywordOf (kept ++ '#' :: remark) = keywordOf kept ∧
      bodyOf (kept ++ '#' :: remark) = bodyOf kept ++ '#' :: remark := by
  obtain ⟨keyword, behind⟩ := keyword_append (.inl ends)
  rw [keywordOf, bodyOf, Text.trimStart_append_cons (by decide), keyword, behind, undivided_sign]
  exact ⟨rfl, rfl⟩

/-- With a remark and without it a line has the same keyword, and what is left of the rest is what is in front of the
remark. -/
theorem says_remark {kept remark keyword rest : Text} (said : Says (kept ++ '#' :: remark) keyword rest)
    (opened : OpenToRemark false false kept) :
    keyword = keywordOf kept ∧ rest = bodyOf kept ++ '#' :: Text.trimEnd remark ∧
      Says kept keyword (Text.trimEnd (bodyOf kept)) := by
  have speaks : ¬ Silent kept := fun silent => said.speaks ((silent_remark kept remark).mpr silent)
  obtain ⟨sameKeyword, longer⟩ := parts_sign (opened.exists_endsKeyword speaks) remark
  have parts := said.parts
  rw [keywordAndRest_trim, sameKeyword, longer, Text.trimEnd_append, Text.trimEnd_cons_of_not (by decide),
    if_neg (List.cons_ne_nil _ _)] at parts
  obtain ⟨rfl, rfl⟩ := Prod.mk.inj parts
  exact ⟨rfl, rfl, speaks, keywordAndRest_trim kept⟩

theorem head_bodyOf {line : Text} {c : Char} (head : (bodyOf line).head? = some c) : Text.isBlank c = false :=
  Text.head_trimStart head

/-! ### A line without its remark -/

/-- A line that can take a remark: it is no proxy command, and no quote is left open by its keyword. -/
def TakesRemark (line : Text) : Prop :=
  ∀ keyword rest, Says line keyword rest →
    ¬ Text.SameLetters keyword "proxycommand".toList ∧ Balanced keyword

/-- All that most keywords ask for in the rest of their line is in front of its comment. -/
theorem ofKeyword_congr {keyword rest other : Text} (notCommand : ¬ Text.SameLetters keyword "proxycommand".toList)
    (some : rest ≠ []) (someOther : other ≠ []) (same : withoutComment rest = withoutComment other) :
    ofKeyword keyword rest = ofKeyword keyword other := by
  have notNamed : ¬ Text.lower keyword = "proxycommand".toList := notCommand
  simp only [ofKeyword, if_neg some, if_neg someOther, if_neg notNamed, arguments, same]

namespace RemarkBehind

variable {line kept : Text}

/-- What is in front of a remark in the rest of the line is what is left of the rest, if it is anything at all. -/
theorem withoutComment_eq {head inner : Text} (behind : RemarkBehind line kept) (remark : Text)
    (split : kept = head ++ inner) (closed : Balanced head) (value : inner ≠ []) :
    withoutComment (inner ++ '#' :: remark) = Text.trimEnd inner ∧
      withoutComment (Text.trimEnd inner) = Text.trimEnd inner := by
  subst split
  -- what begins a remark in the rest begins one in the line
  have noneIn : ∀ front more, inner = front ++ '#' :: more → ¬ OpenToRemark false false front := by
    intro front more within opened
    have nonempty : front ≠ [] := by
      rintro rfl
      cases opened.behindBlank
    apply behind.first (head ++ front) more
    · rw [within, List.append_assoc]
    · exact (openToRemark_append closed nonempty).mpr opened
  have opened : OpenToRemark false false inner := (openToRemark_append closed value).mp behind.opened
  have cut : beforeComment false false (inner ++ '#' :: remark) = some inner := by
    rw [beforeComment_eq_some_iff, beforeComment_eq_none_iff]
    exact ⟨⟨remark, rfl⟩, opened, noneIn⟩
  have whole : beforeComment false false (Text.trimEnd inner) = none := by
    rw [beforeComment_eq_none_iff]
    intro front more within
    obtain ⟨gap, same, -⟩ := Text.trimEnd_append_blank inner
    apply noneIn front (more ++ gap)
    rw [same, within, List.append_assoc, List.cons_append]
  constructor
  · rw [withoutComment, cut]
  · rw [withoutComment, whole]

/-- A line with something more than a keyword in front of its remark means the same without the remark. -/
theorem ofLine_eq (behind : RemarkBehind line kept) (taking : TakesRemark line)
    (valued : ∀ keyword, ¬ Says kept keyword []) : ofLine kept = ofLine line := by
  obtain ⟨remark, rfl⟩ := behind.begins
  rcases silent_or_says (kept ++ '#' :: remark) with silent | ⟨keyword, rest, said⟩
  · rw [ofLine_of_silent silent, ofLine_of_silent ((silent_remark kept remark).mp silent)]
  obtain ⟨notCommand, closed⟩ := taking keyword rest said
  obtain ⟨rfl, rfl, left⟩ := says_remark said behind.opened
  obtain ⟨head, split, quotes⟩ := exists_head kept
  have more : Text.trimEnd (bodyOf kept) ≠ [] := fun empty => valued _ (empty ▸ left)
  have value : bodyOf kept ≠ [] := fun empty => more (by rw [empty]; rfl)
  have closedHead : Balanced head := by rw [Balanced, quotes]; exact closed
  obtain ⟨long, short⟩ := behind.withoutComment_eq (Text.trimEnd remark) split closedHead value
  rw [left.ofLine_eq, said.ofLine_eq, ofKeyword_congr notCommand more (by simp) (short.trans long.symm)]

/-- A line with nothing but a keyword in front of its remark lacks a value without it, and does not lack it with it. -/
theorem ofLine_valueless (behind : RemarkBehind line kept) {keyword : Text} (bare : Says kept keyword []) :
    ofLine kept = .error (.missingValue keyword) ∧ ofLine line ≠ .error (.missingValue keyword) := by
  constructor
  · rw [bare.ofLine_eq, ofKeyword, if_pos rfl]
    rfl
  intro missing
  obtain ⟨remark, rfl⟩ := behind.begins
  have speaks : ¬ Silent (kept ++ '#' :: remark) := fun silent =>
    bare.speaks ((silent_remark kept remark).mp silent)
  have silentOrSaid := silent_or_says (kept ++ '#' :: remark)
  obtain ⟨other, rest, said⟩ := silentOrSaid.resolve_left speaks
  obtain ⟨-, rfl, left⟩ := says_remark said behind.opened
  -- the rest begins with the number sign
  have empty : bodyOf kept = [] := by
    cases body : bodyOf kept with
    | nil => rfl
    | cons c more =>
        have shown : Text.isBlank c = false := head_bodyOf (by rw [body]; rfl)
        have none := (left.unique bare).2
        rw [body, Text.trimEnd_cons_of_not shown] at none
        cases none
  have outcome := ofLine_outcome (kept ++ '#' :: remark)
  rw [missing] at outcome
  cases outcome with
  | noValue nothing => simpa using (nothing.unique said).2
  | emptyValue again _ pair =>
      have start := head_withoutComment (c := '#') (by decide) (Text.trimEnd remark)
      rw [(again.unique said).2, empty, List.nil_append] at pair
      rw [pair] at start
      cases start

end RemarkBehind

end Directive

/-! ### A text without a remark -/

/-- A line can stand between two texts: the first is empty or ends its last line, and the second is empty or begins
with a line end. -/
structure Surrounds (front back : Text) : Prop where
  ended : Text.EndsLine front
  follows : back = [] ∨ ∃ (ending : LineEnd) (rest : Text), back = ending.mark ++ '\n' :: rest

/-- The lines around a line do not depend on it, and the line stands among them, if perhaps with a carriage return
more or less. -/
theorem Surrounds.exists_lines {front back : Text} (around : Surrounds front back) :
    ∃ later, ∀ line : Text, line ≠ [] → '\n' ∉ line →
      ∃ shown, Text.lines (front ++ line ++ back) = Text.lines front ++ shown :: later ∧
        Text.trim shown = Text.trim line := by
  rcases around.follows with rfl | ⟨ending, rest, rfl⟩
  · refine ⟨[], ?_⟩
    intro line nonempty single
    refine ⟨line, ?_, rfl⟩
    rw [List.append_nil, Text.lines_append around.ended, Text.lines, Text.lines, Text.segments_of_not_mem single,
      Text.endedLines, if_neg nonempty]
  · refine ⟨Text.lines rest, ?_⟩
    intro line nonempty single
    refine ⟨Text.withoutReturn (line ++ ending.mark), ?_, ?_⟩
    · have mark : '\n' ∉ line ++ ending.mark := by simp [single, ending.single_mark]
      rw [List.append_assoc, Text.lines_append around.ended, ← List.append_assoc, Text.lines_append_feed mark]
    · rw [Text.trim_withoutReturn, Text.trim_append_blank line ending.blank_mark]

namespace Document

open Directive

/-- Taking the remark behind a line away. If there is more than a keyword in front of it, the text is read exactly as
before, with the same document or the same error. If there is not, the shorter line lacks its value, which the line
with the remark does not. -/
theorem parse_withoutRemark (files : FileSystem) (origin home : Path) {front line kept back : Text}
    (around : Surrounds front back) (single : '\n' ∉ line) (behind : RemarkBehind line kept)
    (taking : TakesRemark line) :
    ((∀ keyword, ¬ Says kept keyword []) →
      parse files (front ++ kept ++ back) origin home = parse files (front ++ line ++ back) origin home) ∧
    ∀ keyword, Says kept keyword [] → ofLine line ≠ .error (.missingValue keyword) ∧
      ∀ document, parse files front origin home = .ok document →
        parse files (front ++ kept ++ back) origin home =
          .error ⟨origin, (Text.lines front).length + 1, .missingValue keyword⟩ := by
  obtain ⟨later, lines⟩ := around.exists_lines
  obtain ⟨remark, whole⟩ := behind.begins
  have nonempty : kept ≠ [] := by
    rintro rfl
    cases behind.opened.behindBlank
  obtain ⟨shown, long, sameLine⟩ := lines line (by simp [whole]) single
  obtain ⟨left, short, sameKept⟩ := lines kept nonempty (fun member => single (by simp [whole, member]))
  have ofShown : ofLine shown = ofLine line := ofLine_congr sameLine
  have ofLeft : ofLine left = ofLine kept := ofLine_congr sameKept
  constructor
  · intro valued
    have alike : ofLine left = ofLine shown := by rw [ofLeft, ofShown, behind.ofLine_eq taking valued]
    have step : ∀ number, itemsOfLine files home (deeper? files home includeLimit) origin (left, number) =
        itemsOfLine files home (deeper? files home includeLimit) origin (shown, number) := by
      intro number
      simp only [itemsOfLine, alike]
    rw [parse, parse, readAt_eq, readLines, readLines, long, short]
    simp only [List.zipIdx_append, List.zipIdx_cons, List.mapM_append, List.mapM_cons, step]
  · intro keyword bare
    obtain ⟨missing, present⟩ := behind.ofLine_valueless bare
    refine ⟨present, ?_⟩
    intro document read
    rw [parse, readAt_eq] at read ⊢
    rw [readLines_eq_error_iff]
    refine ⟨Text.lines front, left, later, short, ?_, ?_⟩
    · exact (exists_readLines_eq_ok_iff ..).mp ⟨document, read⟩
    · simp only [itemsOfLine, ofLeft, missing]

/-- A value in quotes that hold a number sign, with a remark behind it, and a keyword with a remark for its value. -/
theorem parse_withoutRemark_quoted :
    let files := FileSystem.holding ⟨"/c".toList⟩ (.ok [])
    let front := "Host a\r\n".toList
    let back := "\r\n Port 1".toList
    let origin : Path := ⟨"/c".toList⟩
    let home : Path := ⟨"/h".toList⟩
    parse files (front ++ " User = \"a #b\" ".toList ++ back) origin home =
        parse files (front ++ " User = \"a #b\" # c".toList ++ back) origin home ∧
      parse files (front ++ " User ".toList ++ back) origin home =
        .error ⟨origin, 2, .missingValue "User".toList⟩ := by
  intro files front back origin home
  have around : Surrounds front back := ⟨.inr rfl, .inr ⟨.returnFeed, _, rfl⟩⟩
  have taking : ∀ {line rest : Text}, Says line "User".toList rest → TakesRemark line := by
    intro line rest said keyword other again
    obtain ⟨rfl, -⟩ := again.unique said
    exact ⟨by decide, rfl⟩
  have saysValue : Says " User = \"a #b\" ".toList "User".toList "\"a #b\"".toList :=
    ⟨by rintro (empty | comment) <;> contradiction, rfl⟩
  have saysMore : Says " User = \"a #b\" # c".toList "User".toList "\"a #b\" # c".toList :=
    ⟨by rintro (empty | comment) <;> contradiction, rfl⟩
  have saysNothing : Says " User ".toList "User".toList [] :=
    ⟨by rintro (empty | comment) <;> contradiction, rfl⟩
  have saysRemark : Says " User # c".toList "User".toList "# c".toList :=
    ⟨by rintro (empty | comment) <;> contradiction, rfl⟩
  have behindValue : RemarkBehind " User = \"a #b\" # c".toList " User = \"a #b\" ".toList :=
    (remarkBehind_iff ..).mpr (by decide)
  have behindKeyword : RemarkBehind " User # c".toList " User ".toList := (remarkBehind_iff ..).mpr (by decide)
  have valued := (parse_withoutRemark files origin home around (by decide) behindValue (taking saysMore)).1
  have valueless := (parse_withoutRemark files origin home around (by decide) behindKeyword
    (taking saysRemark)).2
  obtain ⟨document, read⟩ : ∃ document, parse files front origin home = .ok document := ⟨_, rfl⟩
  refine ⟨valued ?_, (valueless _ saysNothing).2 document read⟩
  intro keyword bare
  cases (bare.unique saysValue).2

/-- A remark directly behind the keyword is read as its value, and a quote in the keyword makes a remark of a part of
the value. -/
theorem parse_keeps_remark :
    let files := FileSystem.holding ⟨"/c".toList⟩ (.ok [])
    let origin : Path := ⟨"/c".toList⟩
    let home : Path := ⟨"/h".toList⟩
    (RemarkBehind "User # c".toList "User ".toList ∧
      parse files "User # c".toList origin home =
        .ok ⟨[.scoped [.any] [.setting "User".toList "# c".toList]]⟩ ∧
      parse files "User ".toList origin home = .error ⟨origin, 1, .missingValue "User".toList⟩) ∧
    RemarkBehind "a\"b \"c #d\"".toList "a\"b \"c ".toList ∧
      parse files "a\"b \"c #d\"".toList origin home =
        .ok ⟨[.scoped [.any] [.setting "a\"b".toList "c #d".toList]]⟩ ∧
      parse files "a\"b \"c ".toList origin home = .error ⟨origin, 1, .unclosedQuote⟩ := by
  intro files origin home
  exact ⟨⟨(remarkBehind_iff ..).mpr (by decide), rfl, rfl⟩, (remarkBehind_iff ..).mpr (by decide), rfl, rfl⟩

end Document

end SecureShell
