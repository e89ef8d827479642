/-
Module: SecureShell.Proofs.GlobLanguage
Purpose: The texts that a pattern stands for, and what matching decides about them. A text that is accepted is one of
  them. A text that is refused is none of them if the pattern or the text is free of asterisks: without asterisks in
  the pattern nothing has to be retried, and without asterisks in the text it is enough to retry the latest one,
  because the pattern in front of it has been compared with the earliest characters that it fits. Only an asterisk of
  the text that meets one of the pattern may be taken for it, and then a text may be refused that the pattern stands
  for.
Main exports: Glob.Fits, Glob.Outcome, Glob.attempt_outcome, Glob.fits_of_matches, Glob.seek_of_fitsEnd,
  Glob.matches_of_fits
-/
import Mathlib.Data.List.Forall2
import SecureShell.Pattern.Glob

namespace SecureShell.Glob

/-- The texts that a pattern stands for: an asterisk for any run of characters, which may be empty, a question mark
for any one character, and every other character for itself. -/
inductive Fits : (pattern text : Text) → Prop where
  | nil : Fits [] []
  | run {pattern text : Text} (taken : Text) (rest : Fits pattern text) : Fits ('*' :: pattern) (taken ++ text)
  | one {pattern text : Text} (c : Char) (rest : Fits pattern text) : Fits ('?' :: pattern) (c :: text)
  | literal {pattern text : Text} {c : Char} (noRun : c ≠ '*') (noOne : c ≠ '?') (rest : Fits pattern text) :
      Fits (c :: pattern) (c :: text)

/-- A pattern that fits a text from some position of it on. -/
def FitsEnd (pattern text : Text) : Prop :=
  ∃ later, later <:+ text ∧ Fits pattern later

/-- Whether a character of a pattern is taken for one of the text when the two are compared. -/
def Agrees (p c : Char) : Prop :=
  p = '?' ∨ p = c

/-- Whether a pattern is compared with a text to the end of both, without an asterisk being retried. -/
abbrev Compared : (pattern text : Text) → Prop :=
  List.Forall₂ Agrees

theorem Fits.agrees {pattern text : Text} {p c : Char} (same : Agrees p c) (rest : Fits pattern text) :
    Fits (p :: pattern) (c :: text) := by
  by_cases run : p = '*'
  · subst run
    obtain rfl : '*' = c := same.resolve_left (by decide)
    exact .run ['*'] rest
  · by_cases one : p = '?'
    · subst one
      exact .one c rest
    · obtain rfl : p = c := same.resolve_left one
      exact .literal run one rest

/-- What is compared fits, with anything that fits behind it. -/
theorem Fits.compared {front taken pattern text : Text} (same : Compared front taken) (rest : Fits pattern text) :
    Fits (front ++ pattern) (taken ++ text) := by
  induction same with
  | nil => exact rest
  | cons agrees _ ih => exact .agrees agrees ih

/-! ### How an attempt ends -/

/-- How an attempt ends. A part of the pattern has been compared with a part of the text; then the text is used up, or
an asterisk is met, or a character of the text is left with which nothing agrees. -/
inductive Outcome (pattern text : Text) : Attempt → Prop where
  | finished {front behind : Text} (split : pattern = front ++ behind) (same : Compared front text) :
      Outcome pattern text (.finished (behind.all (· = '*')))
  | asterisk {front behind taken rest : Text} {c : Char} (split : pattern = front ++ '*' :: behind)
      (cut : text = taken ++ c :: rest) (same : Compared front taken) (differs : ¬ Agrees '*' c) :
      Outcome pattern text (.asterisk behind (c :: rest))
  | mismatch {front behind taken rest : Text} {c : Char} (split : pattern = front ++ behind)
      (cut : text = taken ++ c :: rest) (same : Compared front taken)
      (unfit : ∀ p ∈ behind.head?, ¬ Agrees p c ∧ p ≠ '*') : Outcome pattern text .mismatch

/-- One more pair of characters in front of what is compared. -/
theorem Outcome.cons {pattern text : Text} {p c : Char} (agrees : Agrees p c) {ended : Attempt}
    (outcome : Outcome pattern text ended) : Outcome (p :: pattern) (c :: text) ended := by
  cases outcome with
  | finished split same => exact .finished (congrArg (p :: ·) split) (.cons agrees same)
  | asterisk split cut same differs =>
      exact .asterisk (congrArg (p :: ·) split) (congrArg (c :: ·) cut) (.cons agrees same) differs
  | mismatch split cut same unfit =>
      exact .mismatch (congrArg (p :: ·) split) (congrArg (c :: ·) cut) (.cons agrees same) unfit

theorem attempt_outcome (pattern text : Text) : Outcome pattern text (attempt pattern text) := by
  induction pattern generalizing text with
  | nil =>
      cases text with
      | nil => exact .finished rfl .nil
      | cons c text => exact .mismatch rfl rfl .nil nofun
  | cons p pattern ih =>
      cases text with
      | nil => exact .finished rfl .nil
      | cons c text =>
          rw [attempt]
          split
          · next agrees => exact (ih text).cons agrees
          · next differs =>
            split
            · next run =>
              subst run
              exact .asterisk rfl rfl .nil differs
            · next noRun =>
              refine .mismatch rfl rfl .nil fun q first => ?_
              obtain rfl := Option.some.inj first
              exact ⟨differs, noRun⟩

theorem outcome_of {pattern text : Text} {ended : Attempt} (result : attempt pattern text = ended) :
    Outcome pattern text ended :=
  result ▸ attempt_outcome pattern text

/-! ### How the search goes on -/

theorem seek_of_finished {pattern text : Text} {accepted : Bool}
    (ended : attempt pattern text = .finished accepted) : seek pattern text = accepted := by
  rw [seek]
  split <;> simp_all

theorem seek_of_asterisk {pattern text behind rest : Text} (met : attempt pattern text = .asterisk behind rest) :
    seek pattern text = seek behind rest := by
  rw [seek]
  split <;> simp_all

theorem seek_of_mismatch {pattern text : Text} {c : Char} (mismatch : attempt pattern (c :: text) = .mismatch) :
    seek pattern (c :: text) = seek pattern text := by
  rw [seek]
  split <;> simp_all

/-- A text that is used up is no mismatch. -/
theorem attempt_nil_ne (pattern : Text) : attempt pattern [] ≠ .mismatch := by
  cases pattern <;> simp [attempt]

/-! ### What is accepted fits -/

theorem fits_nil_iff (pattern : Text) : Fits pattern [] ↔ pattern.all (· = '*') = true := by
  rw [List.all_eq_true]
  constructor
  · intro fits
    generalize whole : ([] : Text) = text at fits
    induction fits with
    | nil => nofun
    | run taken rest ih =>
        obtain ⟨-, rfl⟩ := List.nil_eq_append_iff.mp whole
        exact List.forall_mem_cons.mpr ⟨rfl, ih rfl⟩
    | one => cases whole
    | literal => cases whole
  · intro all
    induction pattern with
    | nil => exact .nil
    | cons p pattern ih =>
        obtain ⟨run, others⟩ := List.forall_mem_cons.mp all
        obtain rfl : p = '*' := of_decide_eq_true run
        exact .run [] (ih others)

theorem fits_of_finished {pattern text : Text} (ended : attempt pattern text = .finished true) :
    Fits pattern text := by
  have outcome := outcome_of ended
  generalize answer : Attempt.finished true = result at outcome
  cases outcome with
  | finished split same =>
      have fits := Fits.compared same ((fits_nil_iff _).mpr (Attempt.finished.inj answer).symm)
      rwa [← split, List.append_nil] at fits
  | asterisk => cases answer
  | mismatch => cases answer

/-- Where an asterisk is met, whatever fits behind it from some position on makes the whole fit. -/
theorem fits_of_asterisk {pattern text behind rest : Text} (met : attempt pattern text = .asterisk behind rest)
    (fits : FitsEnd behind rest) : Fits pattern text := by
  cases outcome_of met with
  | asterisk split cut same =>
      obtain ⟨later, ⟨taken, whole⟩, fits⟩ := fits
      rw [split, cut, ← whole]
      exact .compared same (.run taken fits)

theorem fitsEnd_of_seek {pattern text : Text} (found : seek pattern text = true) : FitsEnd pattern text := by
  induction pattern, text using seek.induct with
  | case1 pattern text accepted ended =>
      obtain rfl : accepted = true := seek_of_finished ended ▸ found
      exact ⟨text, List.suffix_rfl, fits_of_finished ended⟩
  | case2 pattern text behind rest met _ ih =>
      rw [seek_of_asterisk met] at found
      exact ⟨text, List.suffix_rfl, fits_of_asterisk met (ih found)⟩
  | case3 pattern mismatch => exact absurd mismatch (attempt_nil_ne pattern)
  | case4 pattern c later mismatch ih =>
      rw [seek_of_mismatch mismatch] at found
      obtain ⟨last, behind, fits⟩ := ih found
      exact ⟨last, behind.trans (List.suffix_cons c later), fits⟩

/-- A text that is accepted is one of those that the pattern stands for. -/
theorem fits_of_matches {pattern text : Text} (accepted : Glob.matches pattern text = true) : Fits pattern text := by
  rw [Glob.matches] at accepted
  split at accepted
  · next ended =>
    subst accepted
    exact fits_of_finished ended
  · next met => exact fits_of_asterisk met (fitsEnd_of_seek accepted)
  · cases accepted

/-! ### Patterns without asterisks -/

/-- A pattern without asterisks is compared to the end of every text that it stands for. -/
theorem attempt_of_fits {pattern text : Text} (fits : Fits pattern text) (plain : '*' ∉ pattern) :
    attempt pattern text = .finished true := by
  induction fits with
  | nil => rfl
  | run => exact absurd List.mem_cons_self plain
  | one c rest ih =>
      rw [attempt, if_pos (.inl rfl)]
      exact ih (List.not_mem_of_not_mem_cons plain)
  | literal noRun noOne rest ih =>
      rw [attempt, if_pos (.inr rfl)]
      exact ih (List.not_mem_of_not_mem_cons plain)

/-! ### Texts without asterisks -/

section

variable {pattern text : Text} {p : Char}

/-- Where a pattern does not begin with an asterisk, its first character agrees with that of the text, and the rest
fits the rest. -/
theorem Fits.exists_cons (fits : Fits (p :: pattern) text) (noRun : p ≠ '*') :
    ∃ c rest, text = c :: rest ∧ Agrees p c ∧ Fits pattern rest := by
  cases fits with
  | run => exact absurd rfl noRun
  | one c rest => exact ⟨c, _, rfl, .inl rfl, rest⟩
  | literal _ _ rest => exact ⟨p, _, rfl, .inr rfl, rest⟩

theorem Fits.exists_run (fits : Fits ('*' :: pattern) text) : FitsEnd pattern text := by
  generalize written : '*' :: pattern = whole at fits
  cases fits with
  | nil => cases written
  | run taken rest =>
      cases written
      exact ⟨_, List.suffix_append _ _, rest⟩
  | one => simp at written
  | literal noRun => exact absurd (List.cons.inj written).1.symm noRun

/-- A part of the pattern that has been compared with characters other than asterisks takes as many characters
wherever the pattern fits. -/
theorem Fits.exists_append {front taken : Text} (same : Compared front taken) (free : '*' ∉ taken)
    (fits : Fits (front ++ pattern) text) :
    ∃ first last, text = first ++ last ∧ first.length = taken.length ∧ Fits pattern last := by
  induction same generalizing text with
  | nil => exact ⟨[], text, rfl, rfl, fits⟩
  | @cons q d front taken agrees _ ih =>
      have noRun : q ≠ '*' := by
        rintro rfl
        obtain rfl : '*' = d := agrees.resolve_left (by decide)
        exact free List.mem_cons_self
      obtain ⟨c, rest, rfl, -, fits⟩ := fits.exists_cons noRun
      obtain ⟨first, last, rfl, long, fits⟩ := ih (List.not_mem_of_not_mem_cons free) fits
      exact ⟨c :: first, last, rfl, congrArg Nat.succ long, fits⟩

/-- When the text is used up and the pattern fits some end of it, nothing but asterisks is left of the pattern. -/
theorem FitsEnd.accepted {accepted : Bool} (fits : FitsEnd pattern text) (free : '*' ∉ text)
    (ended : attempt pattern text = .finished accepted) : accepted = true := by
  cases outcome_of ended with
  | finished split same =>
      obtain ⟨later, inside, fits⟩ := fits
      rw [split] at fits
      obtain ⟨first, last, rfl, long, fits⟩ := fits.exists_append same free
      have short := inside.length_le
      rw [List.length_append] at short
      obtain rfl : last = [] := List.eq_nil_of_length_eq_zero (by omega)
      exact (fits_nil_iff _).mp fits

/-- A text that fits is not given up. -/
theorem Fits.no_mismatch (fits : Fits pattern text) (free : '*' ∉ text) : attempt pattern text ≠ .mismatch := by
  intro mismatch
  cases outcome_of mismatch with
  | @mismatch _ behind taken rest c split cut same unfit =>
      rw [split] at fits
      rw [cut] at fits free
      obtain ⟨first, last, whole, long, fits⟩ :=
        fits.exists_append same fun member => free (List.mem_append_left _ member)
      obtain ⟨-, rfl⟩ := List.append_inj whole long.symm
      cases behind with
      | nil => cases fits
      | cons q behind =>
          obtain ⟨differs, noRun⟩ := unfit q rfl
          obtain ⟨d, _, left, agrees, -⟩ := fits.exists_cons noRun
          obtain ⟨rfl, -⟩ := List.cons.inj left
          exact differs agrees

/-- Where an asterisk is met, only what stands behind it has to be looked for: if the whole pattern fits some end of
the text, the pattern behind the asterisk fits some end of what is left. -/
theorem FitsEnd.behind_asterisk {behind rest : Text} (fits : FitsEnd pattern text) (free : '*' ∉ text)
    (met : attempt pattern text = .asterisk behind rest) : FitsEnd behind rest ∧ '*' ∉ rest := by
  cases outcome_of met with
  | @asterisk _ _ taken rest c split cut same =>
      subst cut
      obtain ⟨later, inside, fits⟩ := fits
      rw [split] at fits
      obtain ⟨first, last, rfl, long, fits⟩ :=
        fits.exists_append same fun member => free (List.mem_append_left _ member)
      -- the front takes as many characters at any other place, so no more is left there than here
      have short : last.length ≤ (c :: rest).length := by
        have whole := inside.length_le
        simp only [List.length_append] at whole
        omega
      have within : last <:+ c :: rest :=
        List.suffix_of_suffix_length_le ((List.suffix_append first last).trans inside) (List.suffix_append taken _)
          short
      obtain ⟨end', latest, fits⟩ := fits.exists_run
      exact ⟨⟨end', latest.trans within, fits⟩, fun member => free (List.mem_append_right _ member)⟩

end

/-- In a text without asterisks the pattern is found wherever it fits. -/
theorem seek_of_fitsEnd {pattern text : Text} (fits : FitsEnd pattern text) (free : '*' ∉ text) :
    seek pattern text = true := by
  induction pattern, text using seek.induct with
  | case1 pattern text accepted ended =>
      rw [seek_of_finished ended]
      exact fits.accepted free ended
  | case2 pattern text behind rest met _ ih =>
      obtain ⟨fits, free⟩ := fits.behind_asterisk free met
      rw [seek_of_asterisk met]
      exact ih fits free
  | case3 pattern mismatch => exact absurd mismatch (attempt_nil_ne pattern)
  | case4 pattern c text mismatch ih =>
      rw [seek_of_mismatch mismatch]
      obtain ⟨later, inside, fits⟩ := fits
      rcases List.suffix_cons_iff.mp inside with rfl | inside
      · exact absurd mismatch (fits.no_mismatch free)
      · exact ih ⟨later, inside, fits⟩ (List.not_mem_of_not_mem_cons free)

/-- A text that the pattern stands for is accepted if the pattern or the text is free of asterisks. -/
theorem matches_of_fits {pattern text : Text} (fits : Fits pattern text) (free : '*' ∉ pattern ∨ '*' ∉ text) :
    Glob.matches pattern text = true := by
  rw [Glob.matches]
  rcases free with plain | free
  · rw [attempt_of_fits fits plain]
  · have whole : FitsEnd pattern text := ⟨text, List.suffix_rfl, fits⟩
    split
    · next ended => exact whole.accepted free ended
    · next met =>
      obtain ⟨fits, free⟩ := whole.behind_asterisk free met
      exact seek_of_fitsEnd fits free
    · next mismatch => exact absurd mismatch (fits.no_mismatch free)

end SecureShell.Glob
