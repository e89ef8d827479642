/-
Module: SecureShell.Proofs.ShellWords
Purpose: How a shell reads a line of plain words. Characters that quote nothing, fill in nothing and end no word
  mean themselves; a line of words of such characters with spaces between them is one simple command, and its
  words are those of the line that are not empty. Where the text of a word is empty, the word is missing.
Main exports: splitAtSpaces, splitAtSpaces_line, isOrdinary, spaced, IsCommandName, readSimple_word, readSimple_words,
  readLine_line, shellWords, shellWords_line
-/
import SecureShell.Rehearsal.Shell.Reading

namespace SecureShell.Rehearsal.Shell

/-! ### Lines of words -/

/-- Words with a space in front of each. -/
def spaced (words : List Text) : Text :=
  words.flatMap fun word => ' ' :: word

theorem spaced_cons (word : Text) (words : List Text) :
    spaced (word :: words) = ' ' :: (word ++ spaced words) := by
  simp [spaced]

theorem length_spaced_cons (word : Text) (words : List Text) :
    (spaced (word :: words)).length = word.length + (spaced words).length + 1 := by
  rw [spaced_cons, List.length_cons, List.length_append]

/-- The words of a line: what stands between spaces and is not empty. -/
def splitAtSpaces (line : Text) : List Text :=
  (Text.segments ' ' line).filter (· ≠ [])

/-! ### Characters that mean themselves -/

/-- Whether a character means itself wherever it stands in a command. -/
def isOrdinary (c : Char) : Bool :=
  !endsWord c && !isActiveSign c && c ≠ '#'

/-- A text of characters that mean themselves. -/
def IsOrdinary (text : Text) : Prop :=
  ∀ c ∈ text, isOrdinary c = true

instance (text : Text) : Decidable (IsOrdinary text) :=
  decidable_of_iff (text.all isOrdinary = true) List.all_eq_true

theorem ne_of_ordinary {c d : Char} (ordinary : isOrdinary c = true) (other : isOrdinary d = false) :
    c ≠ d := by
  rintro rfl
  rw [ordinary] at other
  cases other

theorem splitAtSpaces_line {name : Text} {others : List Text} (letters : IsOrdinary name)
    (ordinary : ∀ held ∈ others, IsOrdinary held) :
    splitAtSpaces (name ++ spaced others) = (name :: others).filter (· ≠ []) := by
  have parts : Text.segments ' ' (name ++ spaced others) = name :: others := by
    have single : ' ' ∉ name := fun inside => ne_of_ordinary (letters ' ' inside) rfl rfl
    induction others generalizing name with
    | nil =>
        rw [spaced, List.flatMap_nil, List.append_nil]
        exact Text.segments_of_not_mem single
    | cons word others ih =>
        obtain ⟨next, later⟩ := List.forall_mem_cons.mp ordinary
        rw [spaced_cons, Text.segments_append, Text.segments_of_not_mem single,
          ih next later fun inside => ne_of_ordinary (next ' ' inside) rfl rfl]
        rfl
  rw [splitAtSpaces, parts]

theorem endsWord_of_ordinary {c : Char} (ordinary : isOrdinary c = true) : endsWord c = false := by
  simp only [isOrdinary, Bool.and_eq_true, Bool.not_eq_true'] at ordinary
  exact ordinary.1.1

/-- A line of ordinary characters and spaces. -/
def IsPlainLine (text : Text) : Prop :=
  ∀ c ∈ text, c = ' ' ∨ isOrdinary c = true

theorem IsPlainLine.ne {text : Text} (plain : IsPlainLine text) {c d : Char} (member : c ∈ text)
    (notSpace : d ≠ ' ') (other : isOrdinary d = false) : c ≠ d := by
  rcases plain c member with rfl | ordinary
  · exact notSpace.symm
  · exact ne_of_ordinary ordinary other

theorem isPlainLine_spaced {words : List Text} (ordinary : ∀ word ∈ words, IsOrdinary word) :
    IsPlainLine (spaced words) := by
  intro c member
  obtain ⟨word, held, inside⟩ := List.mem_flatMap.mp member
  rcases List.mem_cons.mp inside with space | inside
  · exact .inl space
  · exact .inr (ordinary word held c inside)

theorem isPlainLine_append {word : Text} {words : List Text} (letters : IsOrdinary word)
    (ordinary : ∀ held ∈ words, IsOrdinary held) : IsPlainLine (word ++ spaced words) := by
  intro c member
  rcases List.mem_append.mp member with inside | outside
  · exact .inr (letters c inside)
  · exact isPlainLine_spaced ordinary c outside

/-! ### What is skipped in front -/

theorem withoutBreaks_of_not_mem {text : Text} (free : '\\' ∉ text) : withoutBreaks text = text := by
  induction text with
  | nil => rfl
  | cons c rest ih =>
      obtain ⟨different, free⟩ := List.ne_and_not_mem_of_not_mem_cons free
      rw [withoutBreaks.eq_3 _ _ fun _ same => absurd same.symm different, ih free, ite_self]

theorem skip_space (acrossLines : Bool) (text : Text) :
    skip acrossLines false (' ' :: text) = skip acrossLines false text := by
  simp [skip]

/-- In front of an ordinary character nothing is skipped. -/
theorem skip_ordinary (acrossLines : Bool) {c : Char} {text : Text} (ordinary : isOrdinary c = true)
    (plain : IsPlainLine text) : skip acrossLines false (c :: text) = c :: text := by
  have shown : ∀ d, isOrdinary d = false → c ≠ d := fun d => ne_of_ordinary ordinary
  have free : '\\' ∉ c :: text := by
    intro member
    rcases List.mem_cons.mp member with same | inside
    · exact shown '\\' rfl same.symm
    · exact plain.ne inside (by decide) rfl rfl
  rw [skip.eq_4 _ _ _ fun _ same => absurd same (shown '\\' rfl), withoutBreaks_of_not_mem free]
  simp [shown ' ' rfl, shown '\t' rfl, shown '\n' rfl, shown '#' rfl]

/-- No redirection begins with an ordinary character in a plain line. -/
theorem cutStream_ordinary {c : Char} {text : Text} (ordinary : isOrdinary c = true)
    (plain : IsPlainLine text) : cutStream (c :: text) = none := by
  have shown : ∀ d, isOrdinary d = false → c ≠ d := fun d => ne_of_ordinary ordinary
  cases text with
  | nil => simp [cutStream, shown '<' rfl, shown '>' rfl]
  | cons d text =>
      have next : ∀ sign, sign ≠ ' ' → isOrdinary sign = false → d ≠ sign := fun sign =>
        plain.ne List.mem_cons_self
      simp [cutStream, shown '<' rfl, shown '>' rfl, next '<' (by decide) rfl, next '>' (by decide) rfl]

/-! ### One word -/

/-- A word of characters that nothing quotes. -/
def Word.bare (text : Text) : Word :=
  text.map fun c => .char c false

theorem plainText_bare (text : Text) : plainText (Word.bare text) = some text := by
  induction text with
  | nil => rfl
  | cons c rest ih => exact congrArg (Option.map (c :: ·)) ih

theorem endsWord_head_spaced (words : List Text) : ∀ c ∈ (spaced words).head?, endsWord c = true := by
  cases words with
  | nil => simp [spaced]
  | cons word words => simp [spaced_cons, endsWord]

/-- Ordinary characters are read as they are, up to one that ends a word. -/
theorem readFragments_ordinary (commands : CommandReader) {word rest : Text} (ordinary : IsOrdinary word)
    (ends : ∀ c ∈ rest.head?, endsWord c = true) (before : Word) {fuel : Nat} (enough : word.length < fuel) :
    readFragments commands fuel .bare before (word ++ rest) = some (before.reverse ++ Word.bare word, rest) := by
  induction word generalizing before fuel with
  | nil =>
      obtain ⟨fuel, rfl⟩ := Nat.exists_eq_add_one_of_ne_zero (Nat.ne_of_gt enough)
      cases rest with
      | nil => simp [readFragments, Word.bare]
      | cons c rest =>
          have ended : endsWord c = true := ends c rfl
          simp [readFragments, Word.bare, Ground.isEnd, ended]
  | cons c word ih =>
      obtain ⟨fuel, rfl⟩ := Nat.exists_eq_add_one_of_ne_zero (Nat.ne_of_gt (Nat.zero_lt_of_lt enough))
      have own := ordinary c List.mem_cons_self
      have shown : ∀ d, isOrdinary d = false → c ≠ d := fun d => ne_of_ordinary own
      have step : readFragments commands (fuel + 1) .bare before (c :: (word ++ rest))
          = readFragments commands fuel .bare (.char c false :: before) (word ++ rest) := by
        rw [readFragments.eq_def]
        simp [Ground.isEnd, Ground.isQuoted, endsWord_of_ordinary own, shown '\\' rfl, shown '$' rfl,
          shown '\u0060' rfl, shown '\'' rfl, shown '"' rfl]
      rw [List.cons_append, step,
        ih (fun d member => ordinary d (List.mem_cons_of_mem _ member)) _ (Nat.lt_of_succ_lt_succ enough)]
      simp [Word.bare]

theorem readWord_ordinary (commands : CommandReader) {word rest : Text} (nonempty : word ≠ [])
    (ordinary : IsOrdinary word) (ends : ∀ c ∈ rest.head?, endsWord c = true) {fuel : Nat}
    (enough : word.length < fuel) : readWord commands fuel (word ++ rest) = some (Word.bare word, rest) := by
  obtain ⟨c, later, rfl⟩ := List.exists_cons_of_ne_nil nonempty
  have inside : endsWord c = false := endsWord_of_ordinary (ordinary c List.mem_cons_self)
  simpa [readWord, inside] using readFragments_ordinary commands ordinary ends [] enough

/-! ### The words of a simple command -/

/-- What has been read of a simple command when words have been read and nothing else. -/
def SimpleDraft.ofWords (line : Unit → Nat) (words : List Word) : SimpleDraft :=
  ⟨line, [], words, [], words.isEmpty, none⟩

/-- A word is taken for what it is, unless it is the first one and has an equals sign in it. -/
theorem SimpleDraft.add_bare (line : Unit → Nat) (words : List Word) {word : Text}
    (unassigned : words = [] → '=' ∉ word) :
    (SimpleDraft.ofWords line words).add (Word.bare word) = .ofWords line (Word.bare word :: words) := by
  cases words with
  | cons last before => rfl
  | nil =>
      have none : assignment? (Word.bare word) = none := by
        simp only [assignment?]
        split
        · next value behind =>
          have member : Fragment.char '=' false ∈ Word.bare word :=
            List.mem_of_mem_drop (behind ▸ List.mem_cons_self)
          obtain ⟨c, held, same⟩ := List.mem_map.mp member
          cases same
          exact absurd held (unassigned rfl)
        · rfl
      simp [SimpleDraft.ofWords, SimpleDraft.add, none]

section

variable (lineOf : Text → Nat)

/-- A space in front makes no difference. -/
theorem readSimple_space (draft : SimpleDraft) (fuel : Nat) (text : Text) :
    readSimple [] lineOf fuel draft (' ' :: text) = readSimple [] lineOf fuel draft text := by
  cases fuel with
  | zero => rfl
  | succ fuel =>
      have same : skipBlanks (' ' :: text) = skipBlanks text := skip_space false text
      rw [readSimple.eq_def, readSimple.eq_def]
      simp only [same]

/-- A step of reading a simple command takes one word. -/
theorem readSimple_word {line : Unit → Nat} {words : List Word} {word : Text} {others : List Text}
    (nonempty : word ≠ []) (letters : IsOrdinary word) (ordinary : ∀ held ∈ others, IsOrdinary held)
    (unassigned : words = [] → '=' ∉ word) {fuel : Nat} (enough : word.length < fuel) :
    readSimple [] lineOf (fuel + 1) (.ofWords line words) (word ++ spaced others) =
      readSimple [] lineOf fuel (.ofWords line (Word.bare word :: words)) (spaced others) := by
  obtain ⟨c, later, rfl⟩ := List.exists_cons_of_ne_nil nonempty
  have first := letters c List.mem_cons_self
  have rest : IsPlainLine (later ++ spaced others) :=
    isPlainLine_append (fun d member => letters d (List.mem_cons_of_mem _ member)) ordinary
  have start : skipBlanks (c :: later ++ spaced others) = c :: later ++ spaced others :=
    skip_ordinary false first rest
  have noStream : cutStream (c :: later ++ spaced others) = none := cutStream_ordinary first rest
  have noExchange : (SimpleDraft.ofWords line words).asksExchange (c :: later ++ spaced others) = false := by
    simp [SimpleDraft.asksExchange, SimpleDraft.ofWords]
  have goesOn : (c :: later ++ spaced others).head?.all endsWord = false := by
    simp [endsWord_of_ordinary first]
  have reads := fun commands => readWord_ordinary commands nonempty letters (endsWord_head_spaced others) enough
  rw [readSimple.eq_3, start, noStream, noExchange, goesOn, reads, ← SimpleDraft.add_bare line words unassigned]
  · rfl
  -- only a parenthesis behind a single word would begin something else
  · intro rest line head plain openAt same
    rw [start] at same
    exact absurd (List.cons.inj same).1 (ne_of_ordinary first rfl)

/-- Reading a simple command goes through all words behind the first one. -/
theorem readSimple_words {line : Unit → Nat} {last : Word} {before : List Word} {others : List Text}
    (ordinary : ∀ held ∈ others, IsOrdinary held) {fuel : Nat} (enough : (spaced others).length < fuel) :
    readSimple [] lineOf fuel (.ofWords line (last :: before)) (spaced others) =
      some (.simple line [] ((last :: before).reverse ++ (others.filter (· ≠ [])).map Word.bare) [], []) := by
  induction others generalizing last before fuel with
  | nil =>
      obtain ⟨fuel, rfl⟩ := Nat.exists_eq_add_one_of_ne_zero (Nat.ne_of_gt enough)
      simp [spaced, readSimple, skipBlanks, skip, cutStream, SimpleDraft.asksExchange, SimpleDraft.ofWords,
        SimpleDraft.command?]
  | cons word others ih =>
      have later : ∀ held ∈ others, IsOrdinary held := fun held member =>
        ordinary held (List.mem_cons_of_mem _ member)
      rw [length_spaced_cons] at enough
      rw [spaced_cons, readSimple_space]
      -- an empty word is only one more space; any other is taken by a step of its own
      by_cases empty : word = []
      · subst empty
        rw [List.nil_append, ih later (by omega)]
        simp
      · obtain ⟨fuel, rfl⟩ := Nat.exists_eq_add_one_of_ne_zero (Nat.ne_of_gt (Nat.zero_lt_of_lt enough))
        have letters := ordinary word List.mem_cons_self
        rw [readSimple_word lineOf empty letters later (by simp) (by omega), ih later (by omega)]
        simp [empty]

/-! ### A line of words is one simple command -/

/-- A word that names a command as it stands. -/
structure IsCommandName (name : Text) : Prop where
  nonempty : name ≠ []
  ordinary : IsOrdinary name
  unassigned : '=' ∉ name
  unreserved : name ∉ reservedWords

variable {name : Text} {others : List Text}

theorem IsCommandName.exists_cons (named : IsCommandName name) (others : List Text) :
    ∃ c rest, name ++ spaced others = c :: rest ∧ isOrdinary c = true := by
  obtain ⟨c, later, rfl⟩ := List.exists_cons_of_ne_nil named.nonempty
  exact ⟨c, later ++ spaced others, rfl, named.ordinary c List.mem_cons_self⟩

theorem skip_line (acrossLines : Bool) (named : IsCommandName name)
    (ordinary : ∀ held ∈ others, IsOrdinary held) :
    skip acrossLines false (name ++ spaced others) = name ++ spaced others := by
  obtain ⟨c, rest, same, first⟩ := named.exists_cons others
  have plain := isPlainLine_append named.ordinary ordinary
  rw [same] at plain ⊢
  exact skip_ordinary acrossLines first fun d member => plain d (List.mem_cons_of_mem _ member)

theorem plainFront_line (letters : IsOrdinary name) (others : List Text) :
    plainFront (name ++ spaced others) = name := by
  have inside : ∀ c ∈ name, (!endsWord c) = true := fun c member => by
    simp [endsWord_of_ordinary (letters c member)]
  have outside : (spaced others).takeWhile (fun c => !endsWord c) = [] := by
    cases others with
    | nil => rfl
    | cons next others => simp [spaced_cons, endsWord]
  rw [plainFront, List.takeWhile_append_of_pos inside, outside, List.append_nil]

theorem cutReserved_line (named : IsCommandName name) (others : List Text) :
    cutReserved (name ++ spaced others) = none := by
  simp only [cutReserved, plainFront_line named.ordinary, if_neg named.unreserved]

/-- The command that has certain words and nothing else. -/
def commandOf (line : Unit → Nat) (words : List Text) : Script :=
  .simple line [] (words.map Word.bare) []

theorem readCommand_line (named : IsCommandName name) (ordinary : ∀ held ∈ others, IsOrdinary held)
    {fuel : Nat} (enough : (name ++ spaced others).length + 2 < fuel) :
    readCommand [] lineOf fuel (name ++ spaced others) =
      some (commandOf (fun _ => lineOf (name ++ spaced others)) (name :: others.filter (· ≠ [])), []) := by
  obtain ⟨fuel, rfl⟩ : ∃ less, fuel = less + 2 := ⟨fuel - 2, by omega⟩
  rw [List.length_append] at enough
  have asIs : exchange (([] : Aliases).length + 1) [] true (name ++ spaced others)
      = (name ++ spaced others, none) := rfl
  obtain ⟨c, rest, same, first⟩ := named.exists_cons others
  have head : (name ++ spaced others).head? = some c := by rw [same]; rfl
  have words : readSimple [] lineOf (fuel + 1) (.ofWords (fun _ => lineOf (name ++ spaced others)) [])
      (name ++ spaced others) = _ :=
    readSimple_word lineOf named.nonempty named.ordinary ordinary (fun _ => named.unassigned) (by omega)
  rw [readSimple_words lineOf ordinary (by omega)] at words
  rw [readCommand.eq_2, asIs]
  simp only [head, cutReserved_line named]
  split
  · next opens => exact absurd (Option.some.inj opens) (ne_of_ordinary first rfl)
  · exact words
  · next reserved _ => cases reserved

theorem readConditional_line (named : IsCommandName name) (ordinary : ∀ held ∈ others, IsOrdinary held)
    {fuel : Nat} (enough : (name ++ spaced others).length + 4 < fuel) :
    readConditional [] lineOf fuel (name ++ spaced others) =
      some (commandOf (fun _ => lineOf (name ++ spaced others)) (name :: others.filter (· ≠ [])), []) := by
  obtain ⟨fuel, rfl⟩ : ∃ less, fuel = less + 3 := ⟨fuel - 3, by omega⟩
  have noNegation : expect "!" (name ++ spaced others) = none := by
    simp only [expect, cutReserved_line named]
  have start : skipBlanks (name ++ spaced others) = name ++ spaced others := skip_line false named ordinary
  have less : (name ++ spaced others).length + 2 < fuel + 1 := by omega
  have reads := readCommand_line lineOf named ordinary less
  simp [readConditional, readPipeline, noNegation, start, reads, readStages, readConditions]

/-- A line of plain words is one simple command, whose words are those of the line that are not empty. -/
theorem readLine_line (named : IsCommandName name) (ordinary : ∀ held ∈ others, IsOrdinary held) :
    readLine [] lineOf (name ++ spaced others) =
      .commands [commandOf (fun _ => lineOf (name ++ spaced others)) (name :: others.filter (· ≠ []))] [] := by
  obtain ⟨c, rest, same, first⟩ := named.exists_cons others
  have acrossLines := skip_line true named ordinary
  have inLine := skip_line false named ordinary
  obtain ⟨fuel, steps, enough⟩ : ∃ fuel, readingFuel [] (name ++ spaced others) = fuel + 1 ∧
      (name ++ spaced others).length + 4 < fuel :=
    ⟨readingFuel [] (name ++ spaced others) - 1, by simp [readingFuel]; omega⟩
  have reads := readConditional_line lineOf named ordinary enough
  rw [readLine, skipLines, acrossLines]
  rw [same] at inLine reads steps ⊢
  simp only [steps, readLineFrom, skipBlanks, inLine]
  split
  · next impossible => cases impossible
  · next feed => exact absurd (List.cons.inj feed).1 (ne_of_ordinary first rfl)
  · rw [reads]
    rfl

end

/-! ### The words that a shell finds -/

/-- The words of a line that is one simple command with nothing but words in which nothing is quoted or filled
in. -/
def simpleWords? : Reading → Option (List Text)
  | .commands [.simple _ [] words []] [] => words.mapM plainText
  | _ => none

/-- The words that a fresh shell finds in a line. -/
def shellWords (line : Text) : Option (List Text) :=
  simpleWords? (readLine [] (lineNumber line) line)

theorem mapM_plainText_bare (words : List Text) : (words.map Word.bare).mapM plainText = some words := by
  induction words with
  | nil => rfl
  | cons word words ih => simp [plainText_bare, ih]

/-- In a line of plain words a shell finds those that stand between blanks. -/
theorem shellWords_line {name : Text} {others : List Text} (named : IsCommandName name)
    (ordinary : ∀ held ∈ others, IsOrdinary held) :
    shellWords (name ++ spaced others) = some (splitAtSpaces (name ++ spaced others)) := by
  have kept : (name :: others).filter (· ≠ []) = name :: others.filter (· ≠ []) :=
    List.filter_cons_of_pos (by simpa using named.nonempty)
  rw [shellWords, readLine_line _ named ordinary, splitAtSpaces_line named.ordinary ordinary,
    kept]
  exact mapM_plainText_bare _

end SecureShell.Rehearsal.Shell
