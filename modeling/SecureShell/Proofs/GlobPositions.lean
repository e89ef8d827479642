/-
Module: SecureShell.Proofs.GlobPositions
Purpose: Matching by positions. Pattern and text stay as they are; two positions move over them, and of the asterisks
  passed so far the latest is remembered with the position of the text from which the pattern behind it was tried
  last. Such a comparison ends with the answer of matching after finitely many moves, and none of its moves reads the
  pattern or the text outside of their bounds. With it the language of a pattern is decided as far as matching
  decides it.
Main exports: Glob.Place, Glob.Place.move, Glob.walk, Glob.leads_of_attempt, Glob.leads_seek, Glob.matches_language
-/
import SecureShell.Proofs.GlobLanguage

namespace SecureShell.Glob

/-! ### The comparison by positions -/

/-- Where a comparison stands: the two positions, and the latest asterisk passed with the position of the text from
which the pattern behind it was tried last. -/
structure Place where
  inPattern : Nat
  inText : Nat
  asterisk : Option (Nat × Nat)
deriving DecidableEq, Repr

/-- What a move comes to: another place, an answer, or a position that does not exist. -/
inductive Move where
  | goOn (place : Place)
  | answer (accepted : Bool)
  | outside
deriving DecidableEq, Repr

namespace Place

/-- The beginning of pattern and text. -/
def start : Place := ⟨0, 0, none⟩

/-- Where nothing agrees, the pattern behind the latest asterisk is tried one character later. -/
def retry : (asterisk : Option (Nat × Nat)) → Move
  | some (star, tried) => .goOn ⟨star + 1, tried + 1, some (star, tried + 1)⟩
  | none => .answer false

/-- The move for a character of the text. -/
def compare (pattern : Text) (c : Char) (place : Place) : Move :=
  if place.inPattern < pattern.length then
    match pattern[place.inPattern]? with
    | none => .outside
    | some p =>
        if p = '?' ∨ p = c then .goOn ⟨place.inPattern + 1, place.inText + 1, place.asterisk⟩
        else if p = '*' then .goOn ⟨place.inPattern + 1, place.inText, some (place.inPattern, place.inText)⟩
        else retry place.asterisk
  else retry place.asterisk

/-- One move. When the text is used up, the rest of the pattern is cut off at the position in it, which must not lie
behind its end. -/
def move (pattern text : Text) (place : Place) : Move :=
  if place.inText < text.length then
    match text[place.inText]? with
    | none => .outside
    | some c => place.compare pattern c
  else if place.inPattern ≤ pattern.length then .answer ((pattern.drop place.inPattern).all (· = '*'))
  else .outside

end Place

/-- What so many moves come to. -/
def walk (pattern text : Text) : (moves : Nat) → Place → Move
  | 0, place => .goOn place
  | moves + 1, place =>
      match place.move pattern text with
      | .goOn next => walk pattern text moves next
      | ended => ended

/-- What some number of moves comes to. -/
def Leads (pattern text : Text) (place : Place) (result : Move) : Prop :=
  ∃ moves, walk pattern text moves place = result

section

variable {pattern text : Text} {place next : Place} {result : Move}

theorem Leads.refl (place : Place) : Leads pattern text place (.goOn place) :=
  ⟨0, rfl⟩

theorem Leads.step (moved : place.move pattern text = .goOn next) (later : Leads pattern text next result) :
    Leads pattern text place result := by
  obtain ⟨moves, walked⟩ := later
  exact ⟨moves + 1, by rw [walk, moved, ← walked]⟩

theorem Leads.last (moved : place.move pattern text = result) : Leads pattern text place result := by
  cases result with
  | goOn next => exact .step moved (.refl next)
  | answer accepted => exact ⟨1, by rw [walk, moved]⟩
  | outside => exact ⟨1, by rw [walk, moved]⟩

theorem Leads.trans (first : Leads pattern text place (.goOn next)) (later : Leads pattern text next result) :
    Leads pattern text place result := by
  obtain ⟨moves, walked⟩ := first
  induction moves generalizing place with
  | zero =>
      cases walked
      exact later
  | succ moves ih =>
      rw [walk] at walked
      split at walked
      · next moved => exact .step moved (ih walked)
      · next ended => exact absurd walked (ended next)

/-- An answer stands from then on, and a comparison that comes to an answer never leaves the bounds. -/
theorem walk_of_answer {accepted : Bool} {moves : Nat} (answered : walk pattern text moves place = .answer accepted)
    (others : Nat) :
    (moves ≤ others → walk pattern text others place = .answer accepted) ∧
      walk pattern text others place ≠ .outside := by
  induction moves generalizing place others with
  | zero => cases answered
  | succ moves ih =>
      cases others with
      | zero => exact ⟨nofun, nofun⟩
      | succ others =>
          simp only [walk] at answered ⊢
          split at answered
          · next moved =>
            obtain ⟨stands, inside⟩ := ih answered others
            exact ⟨fun later => stands (Nat.le_of_succ_le_succ later), inside⟩
          · next ended =>
            rw [answered]
            exact ⟨fun _ => rfl, nofun⟩

end

/-! ### Single moves -/

section

variable (before gone : Text) {behind rest : Text} {p c : Char} {star : Option (Nat × Nat)}

/-- A move within pattern and text compares the characters at the two positions. -/
theorem move_within : Place.move (before ++ p :: behind) (gone ++ c :: rest) ⟨before.length, gone.length, star⟩ =
    if p = '?' ∨ p = c then .goOn ⟨before.length + 1, gone.length + 1, star⟩
    else if p = '*' then .goOn ⟨before.length + 1, gone.length, some (before.length, gone.length)⟩
    else Place.retry star := by
  simp [Place.move, Place.compare]

/-- When the pattern is used up and the text is not, nothing agrees. -/
theorem move_behind_pattern :
    Place.move before (gone ++ c :: rest) ⟨before.length, gone.length, star⟩ = Place.retry star := by
  simp [Place.move, Place.compare]

/-- When the text is used up, the answer is whether only asterisks are left. -/
theorem move_behind_text :
    Place.move (before ++ behind) gone ⟨before.length, gone.length, star⟩ = .answer (behind.all (· = '*')) := by
  simp [Place.move]

/-! ### Attempts -/

/-- What agrees is passed over. -/
theorem leads_compared {front taken : Text} (same : Compared front taken) :
    Leads (before ++ (front ++ behind)) (gone ++ (taken ++ rest)) ⟨before.length, gone.length, star⟩
      (.goOn ⟨(before ++ front).length, (gone ++ taken).length, star⟩) := by
  induction same generalizing before gone with
  | nil =>
      rw [List.append_nil, List.append_nil]
      exact .refl _
  | @cons q d front taken agrees _ ih =>
      have passed := ih (before ++ [q]) (gone ++ [d])
      simp only [List.append_assoc, List.singleton_append] at passed
      refine .step ?_ passed
      rw [List.cons_append, List.cons_append, move_within, List.length_append, List.length_append]
      exact if_pos agrees

variable {pattern text : Text}

/-- An attempt that uses up the text ends with its answer. -/
theorem leads_of_finished {accepted : Bool} (ended : attempt pattern text = .finished accepted) :
    Leads (before ++ pattern) (gone ++ text) ⟨before.length, gone.length, star⟩ (.answer accepted) := by
  cases outcome_of ended with
  | @finished front _ split same =>
      rw [split, ← List.append_nil text]
      refine .trans (leads_compared before gone same) (.last ?_)
      rw [List.append_nil, ← List.append_assoc]
      exact move_behind_text (before ++ front) _

/-- An attempt that meets an asterisk goes on behind it and remembers it. -/
theorem leads_of_asterisk (met : attempt pattern text = .asterisk behind rest) :
    ∃ front taken, pattern = front ++ '*' :: behind ∧ text = taken ++ rest ∧
      Leads (before ++ pattern) (gone ++ text) ⟨before.length, gone.length, star⟩
        (.goOn ⟨(before ++ front ++ ['*']).length, (gone ++ taken).length,
          some ((before ++ front).length, (gone ++ taken).length)⟩) := by
  cases outcome_of met with
  | @asterisk front _ taken _ _ split cut same differs =>
      refine ⟨front, taken, split, cut, ?_⟩
      rw [split, cut]
      refine .trans (leads_compared before gone same) (.last ?_)
      have long : (before ++ front ++ ['*']).length = (before ++ front).length + 1 := List.length_append
      rw [← List.append_assoc, ← List.append_assoc, move_within, long]
      exact (if_neg differs).trans (if_pos rfl)

/-- An attempt that fails comes to the latest asterisk passed before it. -/
theorem leads_of_mismatch (mismatch : attempt pattern text = .mismatch) :
    Leads (before ++ pattern) (gone ++ text) ⟨before.length, gone.length, star⟩ (Place.retry star) := by
  cases outcome_of mismatch with
  | @mismatch front behind taken _ _ split cut same unfit =>
      rw [split, cut]
      refine .trans (leads_compared before gone same) (.last ?_)
      rw [← List.append_assoc, ← List.append_assoc]
      cases behind with
      | nil =>
          rw [List.append_nil]
          exact move_behind_pattern (before ++ front) (gone ++ taken)
      | cons q behind =>
          obtain ⟨differs, noRun⟩ := unfit q rfl
          rw [move_within]
          exact (if_neg differs).trans (if_neg noRun)

end

/-! ### The whole comparison -/

/-- Behind an asterisk the comparison by positions gives the answer of the search. -/
theorem leads_seek (before behind gone rest : Text) :
    Leads (before ++ ['*'] ++ behind) (gone ++ rest)
      ⟨(before ++ ['*']).length, gone.length, some (before.length, gone.length)⟩ (.answer (seek behind rest)) := by
  induction behind, rest using seek.induct generalizing before gone with
  | case1 behind rest accepted ended =>
      rw [seek_of_finished ended]
      exact leads_of_finished _ _ ended
  | case2 behind rest later last met _ ih =>
      obtain ⟨front, taken, rfl, rfl, leads⟩ := leads_of_asterisk (before ++ ['*']) gone met
      rw [seek_of_asterisk met]
      refine .trans leads ?_
      have further := ih (before ++ ['*'] ++ front) (gone ++ taken)
      simp only [List.append_assoc, List.singleton_append] at further ⊢
      exact further
  | case3 behind mismatch => exact absurd mismatch (attempt_nil_ne behind)
  | case4 behind c rest mismatch ih =>
      rw [seek_of_mismatch mismatch]
      refine .trans (leads_of_mismatch _ _ mismatch) ?_
      have later := ih before (gone ++ [c])
      simp only [List.append_assoc, List.singleton_append, List.length_append, List.length_singleton] at later ⊢
      exact later

/-- The comparison by positions gives the answer of matching. -/
theorem leads_matches (pattern text : Text) :
    Leads pattern text .start (.answer (Glob.matches pattern text)) := by
  rw [Glob.matches]
  split
  · next ended => exact leads_of_finished [] [] ended
  · next behind rest met =>
    obtain ⟨front, taken, rfl, rfl, leads⟩ := leads_of_asterisk [] [] met
    refine .trans leads ?_
    have search := leads_seek front behind taken rest
    simp only [List.append_assoc, List.singleton_append] at search
    exact search
  · next mismatch => exact leads_of_mismatch [] [] mismatch

/-- The language of a pattern. The comparison by positions never leaves the bounds of pattern and text, and from some
number of moves on it stands at the answer of matching. A text that is accepted is one that the pattern stands for; a
text that is refused is none of these, unless both the pattern and the text hold an asterisk. -/
theorem matches_language (pattern text : Text) :
    (∀ moves, walk pattern text moves .start ≠ .outside) ∧
      (∃ enough, ∀ moves, enough ≤ moves →
        walk pattern text moves .start = .answer (Glob.matches pattern text)) ∧
      (Glob.matches pattern text = true → Fits pattern text) ∧
      (Glob.matches pattern text = false → Fits pattern text → '*' ∈ pattern ∧ '*' ∈ text) := by
  obtain ⟨enough, answered⟩ := leads_matches pattern text
  refine ⟨fun moves => (walk_of_answer answered moves).2,
    ⟨enough, fun moves later => (walk_of_answer answered moves).1 later⟩, fits_of_matches, ?_⟩
  intro refused fits
  by_contra free
  rw [matches_of_fits fits (not_and_or.mp free)] at refused
  cases refused

/-- The part behind the asterisk is tried in vain at every position that is left, so the pattern does not stand for
this text. -/
theorem matches_language_refused :
    Glob.matches "db-*-prod".toList "db-eu-staging".toList = false ∧
      ¬ Fits "db-*-prod".toList "db-eu-staging".toList := by
  have refused : Glob.matches "db-*-prod".toList "db-eu-staging".toList = false := by cbv
  obtain ⟨-, -, -, language⟩ := matches_language "db-*-prod".toList "db-eu-staging".toList
  exact ⟨refused, fun fits => absurd (language refused fits).2 (by decide)⟩

end SecureShell.Glob
