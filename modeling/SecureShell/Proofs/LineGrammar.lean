/-
Module: SecureShell.Proofs.LineGrammar
Purpose: Everything that reading one line of a configuration can come to, with the condition for each outcome. A
  line is silent, or it has a keyword and a rest; the keyword decides what is asked of the rest: nothing more
  than that there is one, or that its quotes are closed, or also that it is more than an empty pair of quotes.
  A host line whose quotes are closed always has a pattern.
Main exports: Directive.Silent, Directive.Says, Directive.HasKeyword, Directive.Balanced, Directive.PlainKeyword,
  Directive.Outcome, Directive.splitArguments_eq_error_iff, Directive.ofKeyword_host,
  Directive.ofKeyword_include, Directive.ofKeyword_command, Directive.PlainKeyword.ofKeyword_eq,
  Directive.ofLine_outcome
-/
import SecureShell.Config.Directive

namespace SecureShell.Directive

/-! ### The parts of a line -/

/-- A line without content is empty or begins with a number sign, blanks in front aside. -/
def Silent (line : Text) : Prop :=
  Text.trim line = [] ∨ (Text.trim line).head? = some '#'

/-- A line with content says a keyword and a rest, which stands behind the keyword and one optional equals
sign. -/
structure Says (line keyword rest : Text) : Prop where
  speaks : ¬ Silent line
  parts : keywordAndRest (Text.trim line) = (keyword, rest)

/-- A line with content whose keyword is a name, in whatever case it is written. -/
def HasKeyword (line name : Text) : Prop :=
  ∃ keyword rest, Says line keyword rest ∧ Text.SameLetters keyword name

/-- Every open quote is closed. -/
def Balanced (text : Text) : Prop :=
  text.count '"' % 2 = 0

/-- A keyword without a meaning of its own for the reader. -/
structure PlainKeyword (keyword : Text) : Prop where
  notHost : ¬ Text.SameLetters keyword "host".toList
  notMatch : ¬ Text.SameLetters keyword "match".toList
  notInclude : ¬ Text.SameLetters keyword "include".toList
  notCommand : ¬ Text.SameLetters keyword "proxycommand".toList

theorem silent_or_says (line : Text) :
    Silent line ∨ ∃ keyword rest, Says line keyword rest := by
  by_cases silent : Silent line
  · exact .inl silent
  · exact .inr ⟨_, _, silent, rfl⟩

theorem Says.unique {line keyword rest otherKeyword otherRest : Text}
    (one : Says line keyword rest) (two : Says line otherKeyword otherRest) :
    keyword = otherKeyword ∧ rest = otherRest := by
  have same := one.parts.symm.trans two.parts
  exact Prod.mk.inj same

/-- The rest of a line begins with no blank. -/
theorem Says.head_rest {line keyword rest : Text} (said : Says line keyword rest) {c : Char}
    (head : rest.head? = some c) : Text.isBlank c = false := by
  obtain rfl : (keywordAndRest (Text.trim line)).2 = rest := congrArg Prod.snd said.parts
  exact Text.head_trim head

/-- No character of a keyword ends it. -/
theorem Says.keyword_bare {line keyword rest : Text} (said : Says line keyword rest) :
    ∀ c ∈ keyword, endsKeyword c = false := by
  obtain rfl : (keywordAndRest (Text.trim line)).1 = keyword := congrArg Prod.fst said.parts
  intro c member
  have all := List.all_eq_true.mp (List.all_takeWhile (p := fun c => !endsKeyword c)) c member
  simpa using all

/-- The rest of a line is left of the line. -/
theorem Says.rest_sublist {line keyword rest : Text} (said : Says line keyword rest) : rest.Sublist line := by
  obtain rfl : (keywordAndRest (Text.trim line)).2 = rest := congrArg Prod.snd said.parts
  apply (Text.trim_sublist _).trans
  apply (Text.afterOptional_sublist _ _).trans
  apply (List.dropWhile_sublist _).trans
  exact (List.dropWhile_sublist _).trans (Text.trim_sublist line)

/-- Blanks at the ends of a line mean nothing. -/
theorem ofLine_congr {line other : Text} (same : Text.trim line = Text.trim other) : ofLine line = ofLine other := by
  rw [ofLine, ofLine, same]

theorem ofLine_of_silent {line : Text} (silent : Silent line) : ofLine line = .ok none := by
  unfold ofLine
  split
  · rfl
  · rfl
  · next notEmpty notComment =>
    rcases silent with empty | comment
    · exact absurd empty notEmpty
    · obtain ⟨rest, whole⟩ := List.head?_eq_some_iff.mp comment
      exact absurd whole (notComment rest)

theorem Says.ofLine_eq {line keyword rest : Text} (said : Says line keyword rest) :
    ofLine line = (ofKeyword keyword rest).map some := by
  unfold ofLine
  split
  · next empty => exact absurd (.inl empty) said.speaks
  · next rest comment => exact absurd (.inr (by rw [comment]; rfl)) said.speaks
  · simp only [said.parts]

/-! ### Arguments -/

/-- Splitting fails exactly at a quote that is left open. -/
theorem splitArguments_eq_error_iff (inQuotes : Bool) (pending : Option Text) (text : Text)
    (fault : Fault) :
    splitArguments inQuotes pending text = .error fault ↔
      fault = .unclosedQuote ∧ (text.count '"' + inQuotes.toNat) % 2 = 1 := by
  induction text generalizing inQuotes pending with
  | nil =>
      cases inQuotes with
      | true => simp [splitArguments, eq_comm]
      | false => simp [splitArguments]
  | cons c text ih =>
      unfold splitArguments
      by_cases quote : c = '"'
      · rw [if_pos quote, ih, quote, List.count_cons_self]
        refine and_congr_right fun _ => ?_
        have flipped : (!inQuotes).toNat = 1 - inQuotes.toNat := by cases inQuotes <;> rfl
        have bound := inQuotes.toNat_le
        omega
      · rw [if_neg quote, List.count_cons_of_ne quote]
        by_cases blank : Text.isBlank c = true ∧ inQuotes = false
        · rw [if_pos blank, ← ih inQuotes none]
          cases splitArguments inQuotes none text <;> simp [Except.map]
        · rw [if_neg blank, ih]

/-- An argument that has begun is among the arguments. -/
theorem splitArguments_ne_nil {inQuotes : Bool} {begun text : Text} {found : List Text}
    (split : splitArguments inQuotes (some begun) text = .ok found) : found ≠ [] := by
  induction text generalizing inQuotes begun with
  | nil =>
      cases inQuotes with
      | true => simp [splitArguments] at split
      | false =>
          obtain rfl : [begun] = found := by simpa [splitArguments] using split
          simp
  | cons c text ih =>
      unfold splitArguments at split
      by_cases quote : c = '"'
      · rw [if_pos quote] at split
        exact ih split
      · rw [if_neg quote] at split
        by_cases blank : Text.isBlank c = true ∧ inQuotes = false
        · rw [if_pos blank] at split
          cases later : splitArguments inQuotes none text with
          | error fault => simp [later, Except.map] at split
          | ok others =>
              obtain rfl : begun :: others = found := by simpa [later, Except.map] using split
              simp
        · rw [if_neg blank] at split
          exact ih split

/-- A value that begins with no blank keeps its first character when a comment is cut off. -/
theorem head_withoutComment {c : Char} (shown : Text.isBlank c = false) (value : Text) :
    (withoutComment (c :: value)).head? = some c := by
  unfold withoutComment beforeComment
  rw [if_neg (by simp)]
  cases cut : beforeComment (false ^^ decide (c = '"')) (Text.isBlank c) value with
  | none => rfl
  | some kept => simp [Text.trimEnd_cons_of_not shown]

/-- Closed quotes are all that arguments need. -/
theorem arguments_of_balanced {value : Text} (balanced : Balanced (withoutComment value)) :
    ∃ found, arguments value = .ok found := by
  unfold arguments
  cases split : splitArguments false none (withoutComment value) with
  | ok found => exact ⟨found, rfl⟩
  | error fault =>
      have odd := ((splitArguments_eq_error_iff _ _ _ _).mp split).2
      simp only [Bool.toNat_false, Nat.add_zero] at odd
      simp only [Balanced] at balanced
      omega

theorem arguments_of_unbalanced {value : Text} (unbalanced : ¬ Balanced (withoutComment value)) :
    arguments value = .error .unclosedQuote := by
  refine (splitArguments_eq_error_iff _ _ _ _).mpr ⟨rfl, ?_⟩
  simp only [Balanced] at unbalanced
  simp only [Bool.toNat_false, Nat.add_zero]
  omega

theorem balanced_of_arguments {value : Text} {found : List Text} (split : arguments value = .ok found) :
    Balanced (withoutComment value) := by
  refine Classical.byContradiction fun unbalanced => ?_
  rw [arguments_of_unbalanced unbalanced] at split
  cases split

/-- A value that begins with no blank has an argument. -/
theorem arguments_ne_nil {c : Char} {value : Text} (shown : Text.isBlank c = false) {found : List Text}
    (split : arguments (c :: value) = .ok found) : found ≠ [] := by
  obtain ⟨rest, whole⟩ := List.head?_eq_some_iff.mp (head_withoutComment shown value)
  unfold arguments at split
  rw [whole, splitArguments] at split
  by_cases quote : c = '"'
  · rw [if_pos quote] at split
    exact splitArguments_ne_nil split
  · rw [if_neg quote, if_neg (by simp [shown])] at split
    exact splitArguments_ne_nil split

/-! ### Values -/

theorem prefix_of_beforeComment {inQuotes afterBlank : Bool} {text kept : Text}
    (found : beforeComment inQuotes afterBlank text = some kept) : kept <+: text := by
  induction text generalizing inQuotes afterBlank kept with
  | nil => cases found
  | cons c text ih =>
      rw [beforeComment] at found
      split at found
      · cases found
        exact List.nil_prefix
      · obtain ⟨front, later, rfl⟩ := Option.map_eq_some_iff.mp found
        exact (List.prefix_cons_inj c).mpr (ih later)

theorem withoutComment_sublist (value : Text) : (withoutComment value).Sublist value := by
  unfold withoutComment
  cases found : beforeComment false false value with
  | none => exact List.Sublist.refl value
  | some kept => exact (Text.trimEnd_sublist kept).trans (prefix_of_beforeComment found).sublist

theorem unquote_sublist {value plain : Text} (unquoted : unquote value = .ok plain) : plain.Sublist value := by
  unfold unquote at unquoted
  split at unquoted
  · cases unquoted
  split at unquoted
  · next behind _ =>
    split at unquoted
    · cases unquoted
      exact (List.dropLast_sublist behind).trans (List.sublist_cons_self '"' behind)
    · cases unquoted
      exact List.Sublist.refl _
  · cases unquoted
    exact List.Sublist.refl value

theorem unquote_of_unbalanced {value : Text} (unbalanced : ¬ Balanced value) :
    unquote value = .error .unclosedQuote := by
  unfold unquote
  rw [if_pos (by simp only [Balanced] at unbalanced; omega)]

/-- A value with closed quotes is had without the pair around it, and is empty only if it is that pair. -/
theorem unquote_of_balanced {value : Text} (balanced : Balanced value) (nonempty : value ≠ []) :
    ∃ plain, unquote value = .ok plain ∧ (plain = [] ↔ value = ['"', '"']) := by
  unfold unquote
  rw [if_neg (by simp only [Balanced] at balanced; omega)]
  split
  · next behind =>
    by_cases enclosed : behind.getLast? = some '"' ∧ '"' ∉ behind.dropLast
    · rw [if_pos enclosed]
      obtain ⟨inner, rfl⟩ := List.getLast?_eq_some_iff.mp enclosed.1
      exact ⟨inner, by simp, by simp⟩
    · rw [if_neg enclosed]
      refine ⟨'"' :: behind, rfl, by simp, fun same => ?_⟩
      obtain rfl : behind = ['"'] := (List.cons.inj same).2
      simp at enclosed
  · next notQuote =>
    refine ⟨value, rfl, fun empty => absurd empty nonempty, fun pair => ?_⟩
    exact absurd pair (notQuote ['"'])

theorem withoutComment_ne_nil {line keyword rest : Text} (said : Says line keyword rest)
    (value : rest ≠ []) : withoutComment rest ≠ [] := by
  cases rest with
  | nil => exact absurd rfl value
  | cons c rest =>
      intro empty
      have head := head_withoutComment (said.head_rest rfl) rest
      rw [empty] at head
      cases head

/-! ### What a keyword asks for -/

theorem ofKeyword_host {keyword rest : Text} {patterns : List Text} (value : rest ≠ [])
    (named : Text.SameLetters keyword "host".toList) (split : arguments rest = .ok patterns)
    (nonempty : patterns ≠ []) : ofKeyword keyword rest = .ok (.host patterns) := by
  have host : Text.lower keyword = "host".toList := named
  simp only [ofKeyword, if_neg value, if_pos host, split, if_neg nonempty]

theorem ofKeyword_include {keyword rest : Text} (value : rest ≠ [])
    (named : Text.SameLetters keyword "include".toList) :
    ofKeyword keyword rest = (arguments rest).map .include := by
  have folded : Text.lower keyword = "include".toList := named
  rw [ofKeyword, if_neg value, folded]
  rfl

theorem ofKeyword_command {keyword rest : Text} (value : rest ≠ [])
    (named : Text.SameLetters keyword "proxycommand".toList) :
    ofKeyword keyword rest = .ok (.setting keyword rest) := by
  have command : Text.lower keyword = "proxycommand".toList := named
  rw [ofKeyword, if_neg value, command]
  rfl

theorem PlainKeyword.ofKeyword_eq {keyword rest value : Text} (plain : PlainKeyword keyword)
    (some : rest ≠ []) (unquoted : unquote (withoutComment rest) = .ok value) (nonempty : value ≠ []) :
    ofKeyword keyword rest = .ok (.setting keyword value) := by
  have notHost : ¬ Text.lower keyword = "host".toList := plain.notHost
  have notMatch : ¬ Text.lower keyword = "match".toList := plain.notMatch
  have notInclude : ¬ Text.lower keyword = "include".toList := plain.notInclude
  have notCommand : ¬ Text.lower keyword = "proxycommand".toList := plain.notCommand
  simp only [ofKeyword, if_neg some, if_neg notHost, if_neg notMatch, if_neg notInclude,
    if_neg notCommand, unquoted, if_neg nonempty]

/-! ### The outcomes of a line -/

/-- What reading a line comes to, with the condition for it. -/
inductive Outcome (line : Text) : Except Fault (Option Directive) → Prop where
  | silent (silent : Silent line) : Outcome line (.ok none)
  | noValue {keyword : Text} (said : Says line keyword []) :
      Outcome line (.error (.missingValue keyword))
  | host {keyword rest : Text} {patterns : List Text} (said : Says line keyword rest) (value : rest ≠ [])
      (named : Text.SameLetters keyword "host".toList)
      (split : arguments rest = .ok patterns) (nonempty : patterns ≠ []) :
      Outcome line (.ok (some (.host patterns)))
  | matchLine {keyword rest : Text} (said : Says line keyword rest)
      (named : Text.SameLetters keyword "match".toList) :
      Outcome line (.error .matchLine)
  | «include» {keyword rest : Text} {targets : List Text} (said : Says line keyword rest)
      (value : rest ≠ []) (named : Text.SameLetters keyword "include".toList)
      (split : arguments rest = .ok targets) :
      Outcome line (.ok (some (.include targets)))
  | command {keyword rest : Text} (said : Says line keyword rest) (value : rest ≠ [])
      (named : Text.SameLetters keyword "proxycommand".toList) :
      Outcome line (.ok (some (.setting keyword rest)))
  | setting {keyword rest plain : Text} (said : Says line keyword rest) (value : rest ≠ [])
      (named : PlainKeyword keyword) (balanced : Balanced (withoutComment rest))
      (more : withoutComment rest ≠ ['"', '"']) (unquoted : unquote (withoutComment rest) = .ok plain)
      (nonempty : plain ≠ []) :
      Outcome line (.ok (some (.setting keyword plain)))
  | openQuote {keyword rest : Text} (said : Says line keyword rest) (value : rest ≠ [])
      (notMatch : ¬ Text.SameLetters keyword "match".toList)
      (notCommand : ¬ Text.SameLetters keyword "proxycommand".toList)
      (unbalanced : ¬ Balanced (withoutComment rest)) :
      Outcome line (.error .unclosedQuote)
  | emptyValue {keyword rest : Text} (said : Says line keyword rest) (named : PlainKeyword keyword)
      (pair : withoutComment rest = ['"', '"']) :
      Outcome line (.error (.missingValue keyword))

/-- A name in small letters is spelled by the texts that fold to it. -/
theorem lower_eq_iff {keyword name : Text} (small : Text.lower name = name) :
    Text.lower keyword = name ↔ Text.SameLetters keyword name := by
  simp only [Text.SameLetters, small]

theorem not_sameLetters_of {keyword name other : Text} (named : Text.SameLetters keyword name)
    (apart : ¬ Text.SameLetters name other) : ¬ Text.SameLetters keyword other :=
  fun again => apart (named.symm.trans again)

theorem ofLine_outcome (line : Text) : Outcome line (ofLine line) := by
  rcases silent_or_says line with silent | ⟨keyword, rest, said⟩
  · rw [ofLine_of_silent silent]
    exact .silent silent
  rw [said.ofLine_eq]
  by_cases value : rest = []
  · subst value
    exact .noValue said
  unfold ofKeyword
  rw [if_neg value]
  simp only [lower_eq_iff (show Text.lower "host".toList = _ from rfl),
    lower_eq_iff (show Text.lower "match".toList = _ from rfl),
    lower_eq_iff (show Text.lower "include".toList = _ from rfl),
    lower_eq_iff (show Text.lower "proxycommand".toList = _ from rfl)]
  by_cases host : Text.SameLetters keyword "host".toList
  · rw [if_pos host]
    by_cases balanced : Balanced (withoutComment rest)
    · obtain ⟨patterns, split⟩ := arguments_of_balanced balanced
      obtain ⟨c, behind, rfl⟩ := List.exists_cons_of_ne_nil value
      have nonempty := arguments_ne_nil (said.head_rest rfl) split
      simp only [split, if_neg nonempty]
      exact .host said value host split nonempty
    · simp only [arguments_of_unbalanced balanced]
      exact .openQuote said value (not_sameLetters_of host (by decide))
        (not_sameLetters_of host (by decide)) balanced
  rw [if_neg host]
  by_cases matching : Text.SameLetters keyword "match".toList
  · rw [if_pos matching]
    exact .matchLine said matching
  rw [if_neg matching]
  by_cases including : Text.SameLetters keyword "include".toList
  · rw [if_pos including]
    by_cases balanced : Balanced (withoutComment rest)
    · obtain ⟨targets, split⟩ := arguments_of_balanced balanced
      rw [split]
      exact .include said value including split
    · rw [arguments_of_unbalanced balanced]
      exact .openQuote said value matching (not_sameLetters_of including (by decide)) balanced
  rw [if_neg including]
  by_cases command : Text.SameLetters keyword "proxycommand".toList
  · rw [if_pos command]
    exact .command said value command
  rw [if_neg command]
  have plain : PlainKeyword keyword := ⟨host, matching, including, command⟩
  by_cases balanced : Balanced (withoutComment rest)
  · obtain ⟨bare, unquoted, empty⟩ :=
      unquote_of_balanced balanced (withoutComment_ne_nil said value)
    simp only [unquoted]
    by_cases nothing : bare = []
    · rw [if_pos nothing]
      exact .emptyValue said plain (empty.mp nothing)
    · rw [if_neg nothing]
      exact .setting said value plain balanced (fun pair => nothing (empty.mpr pair)) unquoted nothing
  · simp only [unquote_of_unbalanced balanced]
    exact .openQuote said value matching command balanced

end SecureShell.Directive
