/-
Module: SecureShell.Proofs.Acceptance
Purpose: The texts that reading accepts, told as a grammar of lines, and the place that a refusal names. A line of
  an included file is held to the same grammar one level deeper, and an include line at the limit of levels is
  refused. The place is that of the first line in reading order that is not acceptable, followed into the
  included file that is to blame as long as that file can be read as text.
Main exports: Acceptable, Passable, Blames, Spot, OffenceOfLine, FirstOffence, Reports, GrammarReader,
  itemsOfLine_result, readAt_grammar, Document.exists_parse_eq_ok_iff, Document.parse_grammar
-/
import SecureShell.Proofs.LineGrammar
import SecureShell.Proofs.ReadingOrder

namespace SecureShell

open Directive

/-- A line that reading accepts `depth` include levels below the outermost text. -/
inductive Acceptable (files : FileSystem) (home : Path) : (depth : Nat) → (line : Text) → Prop where
  | silent {depth : Nat} {line : Text} (silent : Silent line) : Acceptable files home depth line
  | command {depth : Nat} {line keyword rest : Text} (said : Says line keyword rest)
      (value : rest ≠ []) (named : Text.SameLetters keyword "proxycommand".toList) :
      Acceptable files home depth line
  | host {depth : Nat} {line keyword rest : Text} (said : Says line keyword rest) (value : rest ≠ [])
      (named : Text.SameLetters keyword "host".toList) (balanced : Balanced (withoutComment rest)) :
      Acceptable files home depth line
  | «include» {depth : Nat} {line keyword rest : Text} {targets : List Text}
      (said : Says line keyword rest) (value : rest ≠ [])
      (named : Text.SameLetters keyword "include".toList) (balanced : Balanced (withoutComment rest))
      (shallow : depth < includeLimit) (split : arguments rest = .ok targets)
      (readable : ∀ target ∈ targets, files.readText (includePath home target) = .error .notFound ∨
        ∃ content, files.readText (includePath home target) = .ok content)
      (deeper : ∀ target ∈ targets, ∀ content, files.readText (includePath home target) = .ok content →
        ∀ inner ∈ Text.lines content, Acceptable files home (depth + 1) inner) :
      Acceptable files home depth line
  | setting {depth : Nat} {line keyword rest : Text} (said : Says line keyword rest)
      (value : rest ≠ []) (named : PlainKeyword keyword) (balanced : Balanced (withoutComment rest))
      (more : withoutComment rest ≠ ['"', '"']) :
      Acceptable files home depth line

/-- A target of an include line that stands at a depth: it does not exist, or it is a text whose lines are
all acceptable one level deeper. -/
def Passable (files : FileSystem) (home : Path) (depth : Nat) (target : Text) : Prop :=
  files.readText (includePath home target) = .error .notFound ∨
    ∃ content, files.readText (includePath home target) = .ok content ∧
      ∀ inner ∈ Text.lines content, Acceptable files home (depth + 1) inner

/-- An include line above the limit whose first target that is not passable is the given one. -/
structure Blames (files : FileSystem) (home : Path) (depth : Nat) (line target : Text) : Prop where
  shallow : depth < includeLimit
  first : ∃ keyword rest front back, Says line keyword rest ∧
    Text.SameLetters keyword "include".toList ∧ arguments rest = .ok (front ++ target :: back) ∧
    ∀ earlier ∈ front, Passable files home depth earlier
  bad : ¬ Passable files home depth target

/-- A line of a file: the file, the number of the line, the depth of the file and the line itself. -/
structure Spot where
  path : Path
  number : Nat
  depth : Nat
  line : Text

mutual

/-- Where the fault of a line lies: with the line itself, unless it includes a text that is to blame. -/
inductive OffenceOfLine (files : FileSystem) (home : Path) :
    (depth : Nat) → (origin : Path) → (number : Nat) → (line : Text) → Spot → Prop where
  | own {depth : Nat} {origin : Path} {number : Nat} {line : Text}
      (offends : ¬ Acceptable files home depth line)
      (alone : ∀ target, Blames files home depth line target →
        ∀ content, files.readText (includePath home target) ≠ .ok content) :
      OffenceOfLine files home depth origin number line ⟨origin, number, depth, line⟩
  | included {depth : Nat} {origin : Path} {number : Nat} {line target content : Text} {spot : Spot}
      (blames : Blames files home depth line target)
      (held : files.readText (includePath home target) = .ok content)
      (inner : FirstOffence files home (depth + 1) (includePath home target) content spot) :
      OffenceOfLine files home depth origin number line spot

/-- Where the fault of the first line of a text lies that is not acceptable; the first line is line one. -/
inductive FirstOffence (files : FileSystem) (home : Path) :
    (depth : Nat) → (origin : Path) → (text : Text) → Spot → Prop where
  | line {depth : Nat} {origin : Path} {text : Text} {before after : List Text} {line : Text}
      {spot : Spot} (row : Text.lines text = before ++ line :: after)
      (earlier : ∀ other ∈ before, Acceptable files home depth other)
      (offence : OffenceOfLine files home depth origin (before.length + 1) line spot) :
      FirstOffence files home depth origin text spot

end

/-- The fault of a line is the limit of levels: it is an include line that stands too deep, and nothing else
is wrong with it. -/
def Spot.AtLimit (spot : Spot) : Prop :=
  includeLimit ≤ spot.depth ∧ ∃ keyword rest, Says spot.line keyword rest ∧ rest ≠ [] ∧
    Text.SameLetters keyword "include".toList ∧ Balanced (withoutComment rest)

/-- What a failure tells about the place of an offence: file and line, except at the limit of levels, which
alone has a failure of its own. -/
structure Reports (failure : SyntaxError) (spot : Spot) : Prop where
  limit : failure.fault = .includeTooDeep ↔ spot.AtLimit
  place : failure.fault ≠ .includeTooDeep → failure.path = spot.path ∧ failure.line = spot.number

variable {files : FileSystem} {home : Path} {depth : Nat}

/-! ### Acceptable lines by what they say -/

theorem acceptable_include_iff {line keyword rest : Text} {targets : List Text}
    (said : Says line keyword rest) (value : rest ≠ [])
    (named : Text.SameLetters keyword "include".toList) (split : arguments rest = .ok targets) :
    Acceptable files home depth line ↔
      depth < includeLimit ∧ ∀ target ∈ targets, Passable files home depth target := by
  constructor
  · intro acceptable
    cases acceptable with
    | silent silent => exact absurd silent said.speaks
    | command other _ different =>
        obtain ⟨rfl, _⟩ := said.unique other
        exact absurd different (not_sameLetters_of named (by decide))
    | host other _ different _ =>
        obtain ⟨rfl, _⟩ := said.unique other
        exact absurd different (not_sameLetters_of named (by decide))
    | setting other _ plain _ _ =>
        obtain ⟨rfl, _⟩ := said.unique other
        exact absurd named plain.notInclude
    | «include» other _ _ _ shallow again readable deeper =>
        obtain ⟨rfl, rfl⟩ := said.unique other
        obtain rfl : targets = _ := Except.ok.inj (split.symm.trans again)
        refine ⟨shallow, fun target member => ?_⟩
        rcases readable target member with absent | ⟨content, held⟩
        · exact .inl absent
        · exact .inr ⟨content, held, deeper target member content held⟩
  · rintro ⟨shallow, passable⟩
    refine .include said value named (balanced_of_arguments split) shallow split ?_ ?_
    · intro target member
      rcases passable target member with absent | ⟨content, held, _⟩
      · exact .inl absent
      · exact .inr ⟨content, held⟩
    · intro target member content held
      rcases passable target member with absent | ⟨other, again, inner⟩
      · rw [absent] at held
        cases held
      · obtain rfl : content = other := Except.ok.inj (held.symm.trans again)
        exact inner

/-- What every acceptable line with content has in common. -/
structure Regular (keyword rest : Text) : Prop where
  value : rest ≠ []
  notMatch : ¬ Text.SameLetters keyword "match".toList
  closed : ¬ Text.SameLetters keyword "proxycommand".toList → Balanced (withoutComment rest)
  more : PlainKeyword keyword → withoutComment rest ≠ ['"', '"']

theorem Acceptable.regular {line keyword rest : Text} (acceptable : Acceptable files home depth line)
    (said : Says line keyword rest) : Regular keyword rest := by
  cases acceptable with
  | silent silent => exact absurd silent said.speaks
  | command other value named =>
      obtain ⟨rfl, rfl⟩ := said.unique other
      exact ⟨value, not_sameLetters_of named (by decide), fun no => absurd named no,
        fun plain => absurd named plain.notCommand⟩
  | host other value named balanced =>
      obtain ⟨rfl, rfl⟩ := said.unique other
      exact ⟨value, not_sameLetters_of named (by decide), fun _ => balanced,
        fun plain => absurd named plain.notHost⟩
  | «include» other value named balanced _ _ _ _ =>
      obtain ⟨rfl, rfl⟩ := said.unique other
      exact ⟨value, not_sameLetters_of named (by decide), fun _ => balanced,
        fun plain => absurd named plain.notInclude⟩
  | setting other value plain balanced more =>
      obtain ⟨rfl, rfl⟩ := said.unique other
      exact ⟨value, plain.notMatch, fun _ => balanced, fun _ => more⟩

/-- Arguments there are only behind a keyword with a rest. -/
theorem rest_ne_nil_of_arguments {rest : Text} {targets : List Text} (some : targets ≠ [])
    (split : arguments rest = .ok targets) : rest ≠ [] := by
  rintro rfl
  have none : arguments [] = .ok [] := rfl
  exact some (Except.ok.inj (split.symm.trans none))

/-- The first member of a list that fails a test is one member only. -/
theorem first_unique {α : Type} {passes : α → Prop} {front back front' back' : List α} {one other : α}
    (same : front ++ one :: back = front' ++ other :: back') (earlier : ∀ x ∈ front, passes x)
    (earlier' : ∀ x ∈ front', passes x) (fails : ¬ passes one) (fails' : ¬ passes other) :
    one = other := by
  rcases List.append_eq_append_iff.mp same with ⟨between, rfl, rest⟩ | ⟨between, rfl, rest⟩
  · cases between with
    | nil => exact (List.cons.inj rest).1
    | cons head between =>
        obtain ⟨rfl, _⟩ := List.cons.inj rest
        exact absurd (earlier' one (by simp)) fails
  · cases between with
    | nil => exact (List.cons.inj rest).1.symm
    | cons head between =>
        obtain ⟨rfl, _⟩ := List.cons.inj rest
        exact absurd (earlier other (by simp)) fails'

/-- A line has at most one target to blame. -/
theorem Blames.unique {line one other : Text} (first : Blames files home depth line one)
    (second : Blames files home depth line other) : one = other := by
  obtain ⟨keyword, rest, front, back, said, _, split, earlier⟩ := first.first
  obtain ⟨keyword', rest', front', back', again, _, split', earlier'⟩ := second.first
  obtain ⟨_, rfl⟩ := said.unique again
  exact first_unique (Except.ok.inj (split.symm.trans split')) earlier earlier' first.bad second.bad

theorem Blames.not_acceptable {line target : Text} (blames : Blames files home depth line target) :
    ¬ Acceptable files home depth line := by
  obtain ⟨keyword, rest, front, back, said, named, split, _⟩ := blames.first
  rw [acceptable_include_iff said (rest_ne_nil_of_arguments (by simp) split) named split]
  rintro ⟨_, passable⟩
  exact blames.bad (passable target (by simp))

/-- Only an include line can be at fault through a target. -/
theorem Blames.named {line target keyword rest : Text} (blames : Blames files home depth line target)
    (said : Says line keyword rest) : Text.SameLetters keyword "include".toList := by
  obtain ⟨other, _, _, _, again, named, _⟩ := blames.first
  obtain ⟨rfl, _⟩ := said.unique again
  exact named

theorem OffenceOfLine.not_acceptable {origin : Path} {number : Nat} {line : Text} {spot : Spot}
    (offence : OffenceOfLine files home depth origin number line spot) :
    ¬ Acceptable files home depth line := by
  cases offence with
  | own offends _ => exact offends
  | included blames _ _ => exact blames.not_acceptable

/-! ### Reading a target, a line, a text -/

/-- A reader of texts keeps to the grammar at a depth: it reads the texts of acceptable lines, and for any
other its failure reports the first offence. -/
def GrammarReader (files : FileSystem) (home : Path) (depth : Nat) (reader : TextReader) : Prop :=
  ∀ text origin,
    ((∃ document, reader text origin = .ok document) ∧
        ∀ line ∈ Text.lines text, Acceptable files home depth line) ∨
      ∃ failure spot, reader text origin = .error failure ∧
        FirstOffence files home depth origin text spot ∧ Reports failure spot

/-- What reading a target of an include line comes to. -/
inductive TargetResult (files : FileSystem) (home : Path) (depth : Nat) (origin : Path) (number : Nat)
    (target : Text) : Except SyntaxError (Option ConfigEntry) → Prop where
  | passed {entry : Option ConfigEntry} (passable : Passable files home depth target) :
      TargetResult files home depth origin number target (.ok entry)
  | unreadable {cause : SystemError} (bad : ¬ Passable files home depth target)
      (held : ∀ content, files.readText (includePath home target) ≠ .ok content) :
      TargetResult files home depth origin number target
        (.error ⟨origin, number, .includeUnreadable (includePath home target) cause⟩)
  | refused {content : Text} {failure : SyntaxError} {spot : Spot}
      (bad : ¬ Passable files home depth target)
      (held : files.readText (includePath home target) = .ok content)
      (inner : FirstOffence files home (depth + 1) (includePath home target) content spot)
      (reports : Reports failure spot) :
      TargetResult files home depth origin number target (.error failure)

theorem FirstOffence.not_acceptable {origin : Path} {text : Text} {spot : Spot}
    (offence : FirstOffence files home depth origin text spot) :
    ¬ ∀ line ∈ Text.lines text, Acceptable files home depth line := by
  cases offence with
  | line row _ offence =>
      intro acceptable
      exact offence.not_acceptable (acceptable _ (by simp [row]))

theorem readTarget_result {reader : TextReader} (keeps : GrammarReader files home (depth + 1) reader)
    (origin : Path) (number : Nat) (target : Text) :
    TargetResult files home depth origin number target
      (readTarget files home reader origin number target) := by
  simp only [readTarget]
  split
  · next absent => exact .passed (.inl absent)
  · next cause notAbsent failed =>
    refine .unreadable ?_ (by simp [failed])
    rintro (absent | ⟨content, held, _⟩)
    · exact notAbsent (Except.error.inj (failed.symm.trans absent))
    · rw [failed] at held
      cases held
  · next content held =>
    rcases keeps content (includePath home target) with
      ⟨⟨document, decoded⟩, acceptable⟩ | ⟨failure, spot, refused, inner, reports⟩
    · simp only [decoded]
      exact .passed (.inr ⟨content, held, acceptable⟩)
    · simp only [refused]
      refine .refused ?_ held inner reports
      rintro (absent | ⟨other, again, acceptable⟩)
      · rw [held] at absent
        cases absent
      · obtain rfl : content = other := Except.ok.inj (held.symm.trans again)
        exact inner.not_acceptable acceptable

/-- What reading a line comes to: it is acceptable and gives items, or its failure reports its offence. -/
inductive LineResult (files : FileSystem) (home : Path) (depth : Nat) (origin : Path) (number : Nat)
    (line : Text) : Except SyntaxError (List Item) → Prop where
  | accepted {items : List Item} (acceptable : Acceptable files home depth line) :
      LineResult files home depth origin number line (.ok items)
  | refused {failure : SyntaxError} {spot : Spot}
      (offence : OffenceOfLine files home depth origin number line spot)
      (reports : Reports failure spot) :
      LineResult files home depth origin number line (.error failure)

/-- The reader for what a line includes goes with the depth of the line: there is one above the limit of
levels, and it keeps to the grammar one level deeper. -/
inductive Fits (files : FileSystem) (home : Path) (depth : Nat) : Option TextReader → Prop where
  | bottom (deep : includeLimit ≤ depth) : Fits files home depth none
  | above {reader : TextReader} (shallow : depth < includeLimit)
      (keeps : GrammarReader files home (depth + 1) reader) : Fits files home depth (some reader)

/-- A line that is refused for what it says itself is reported with its own place. -/
theorem LineResult.of_own {origin : Path} {number : Nat} {line keyword rest : Text} {fault : Fault}
    (said : Says line keyword rest) (offends : ¬ Acceptable files home depth line)
    (notLimit : fault ≠ .includeTooDeep)
    (sound : Text.SameLetters keyword "include".toList → ¬ Balanced (withoutComment rest) ∨ rest = []) :
    LineResult files home depth origin number line (.error ⟨origin, number, fault⟩) := by
  refine .refused (.own offends fun target blames content => ?_) ⟨?_, fun _ => ⟨rfl, rfl⟩⟩
  · obtain ⟨other, _, _, _, again, named, split, _⟩ := blames.first
    obtain ⟨rfl, rfl⟩ := said.unique again
    rcases sound named with unbalanced | empty
    · exact absurd (balanced_of_arguments split) unbalanced
    · exact absurd empty (rest_ne_nil_of_arguments (by simp) split)
  · refine ⟨fun limit => absurd limit notLimit, fun limit => ?_⟩
    obtain ⟨_, other, rest', again, value, named, balanced⟩ := limit
    obtain ⟨rfl, rfl⟩ := said.unique again
    rcases sound named with unbalanced | empty
    · exact absurd balanced unbalanced
    · exact absurd empty value

/-- The targets of an include line above the limit, read in order. -/
theorem readInclude_result {reader : TextReader} (shallow : depth < includeLimit)
    (keeps : GrammarReader files home (depth + 1) reader) (origin : Path) (number : Nat)
    {line keyword rest : Text} {targets : List Text} (said : Says line keyword rest)
    (value : rest ≠ []) (named : Text.SameLetters keyword "include".toList)
    (split : arguments rest = .ok targets) :
    LineResult files home depth origin number line
      ((readInclude files home (some reader) origin number targets).map fun entries =>
        entries.map Item.entry) := by
  have result := readTarget_result keeps origin number
  cases all : targets.mapM (readTarget files home reader origin number) with
  | ok entries =>
      simp only [readInclude, all, bind, Except.bind, pure, Except.pure, Except.map]
      refine .accepted ((acceptable_include_iff said value named split).mpr ⟨shallow, ?_⟩)
      intro target member
      obtain ⟨entry, passed⟩ := (exists_mapM_eq_ok_iff _ targets).mp ⟨entries, all⟩ target member
      have outcome := result target
      rw [passed] at outcome
      cases outcome with
      | passed passable => exact passable
  | error failure =>
      simp only [readInclude, all, bind, Except.bind, Except.map]
      obtain ⟨front, target, back, rfl, earlier, failed⟩ := (mapM_eq_error_iff _ _ _).mp all
      have before : ∀ other ∈ front, Passable files home depth other := by
        intro other member
        obtain ⟨entry, passed⟩ := earlier other member
        have outcome := result other
        rw [passed] at outcome
        cases outcome with
        | passed passable => exact passable
      have blamed : ¬ Passable files home depth target → Blames files home depth line target :=
        fun bad => ⟨shallow, ⟨keyword, rest, front, back, said, named, split, before⟩, bad⟩
      have outcome := result target
      rw [failed] at outcome
      cases outcome with
      | refused bad held inner reports => exact .refused (.included (blamed bad) held inner) reports
      | @unreadable cause bad held =>
          have blames := blamed bad
          refine .refused (.own blames.not_acceptable fun other again content => ?_)
            ⟨⟨fun limit => (by cases limit), fun limit => ?_⟩, fun _ => ⟨rfl, rfl⟩⟩
          · rw [again.unique blames]
            exact held content
          · exact absurd shallow (Nat.not_lt.mpr limit.1)

/-- An include line at the limit of levels, whatever it names. -/
theorem tooDeep_result (deep : includeLimit ≤ depth) (origin : Path) (number : Nat)
    {line keyword rest : Text} {targets : List Text} (said : Says line keyword rest)
    (value : rest ≠ []) (named : Text.SameLetters keyword "include".toList)
    (split : arguments rest = .ok targets) :
    LineResult files home depth origin number line
      ((readInclude files home none origin number targets).map fun entries =>
        entries.map Item.entry) := by
  refine .refused (.own (fun acceptable => ?_) fun target blames => ?_) ⟨?_, fun other => absurd rfl other⟩
  · exact absurd ((acceptable_include_iff said value named split).mp acceptable).1 (Nat.not_lt.mpr deep)
  · exact absurd blames.shallow (Nat.not_lt.mpr deep)
  · exact ⟨fun _ => ⟨deep, keyword, rest, said, value, named, balanced_of_arguments split⟩, fun _ => rfl⟩

/-- One line: the step lemma, which says everything that reading a line can come to. -/
theorem itemsOfLine_result {nested : Option TextReader} (fits : Fits files home depth nested)
    (origin : Path) (number : Nat) (line : Text) :
    LineResult files home depth origin number line
      (itemsOfLine files home nested origin (line, number)) := by
  have outcome := ofLine_outcome line
  unfold itemsOfLine
  generalize ofLine line = read at outcome
  cases outcome with
  | silent silent => exact .accepted (.silent silent)
  | host said value named split _ =>
      exact .accepted (.host said value named (balanced_of_arguments split))
  | command said value named => exact .accepted (.command said value named)
  | setting said value named balanced more _ _ =>
      exact .accepted (.setting said value named balanced more)
  | «include» said value named split =>
      cases fits with
      | bottom deep => exact tooDeep_result deep origin number said value named split
      | above shallow keeps =>
          exact readInclude_result shallow keeps origin number said value named split
  | noValue said =>
      refine .of_own said (fun acceptable => ?_) (by simp) fun _ => .inr rfl
      exact (acceptable.regular said).value rfl
  | matchLine said named =>
      refine .of_own said (fun acceptable => ?_) (by simp) fun other => ?_
      · exact (acceptable.regular said).notMatch named
      · exact absurd other (not_sameLetters_of named (by decide))
  | openQuote said value notMatch notCommand unbalanced =>
      refine .of_own said (fun acceptable => ?_) (by simp) fun _ => .inl unbalanced
      exact unbalanced ((acceptable.regular said).closed notCommand)
  | emptyValue said named pair =>
      refine .of_own said (fun acceptable => ?_) (by simp) fun other => absurd other named.notInclude
      exact (acceptable.regular said).more named pair

/-- A line that is read is acceptable. -/
theorem acceptable_of_read {nested : Option TextReader} (fits : Fits files home depth nested)
    {origin : Path} {numbered : Text × Nat} {items : List Item}
    (read : itemsOfLine files home nested origin numbered = .ok items) :
    Acceptable files home depth numbered.1 := by
  have outcome := itemsOfLine_result fits origin numbered.2 numbered.1
  rw [read] at outcome
  cases outcome with
  | accepted acceptable => exact acceptable

/-- A text is read by its lines, which all keep to the grammar or have a first that does not. -/
theorem readLines_grammar {nested : Option TextReader} (fits : Fits files home depth nested) :
    GrammarReader files home depth (readLines files home nested) := by
  intro text origin
  cases read : readLines files home nested text origin with
  | ok document =>
      have all := (exists_readLines_eq_ok_iff files home nested text origin).mp ⟨document, read⟩
      refine .inl ⟨⟨document, rfl⟩, fun line member => ?_⟩
      obtain ⟨number, numbered⟩ := exists_mem_zipIdx member 1
      obtain ⟨items, passed⟩ := all _ numbered
      exact acceptable_of_read fits passed
  | error failure =>
      obtain ⟨before, line, after, row, earlier, failed⟩ :=
        (readLines_eq_error_iff files home nested text origin failure).mp read
      have outcome := itemsOfLine_result fits origin (before.length + 1) line
      rw [failed] at outcome
      cases outcome with
      | refused offence reports =>
          refine .inr ⟨failure, _, rfl, .line row (fun other member => ?_) offence, reports⟩
          obtain ⟨number, numbered⟩ := exists_mem_zipIdx member 1
          obtain ⟨items, passed⟩ := earlier _ numbered
          exact acceptable_of_read fits passed

/-- Every level keeps to the grammar, from the limit upwards. -/
theorem readAt_grammar (files : FileSystem) (home : Path) {levels depth : Nat}
    (sum : depth + levels = includeLimit) :
    GrammarReader files home depth (readAt files home levels) := by
  induction levels generalizing depth with
  | zero => exact readLines_grammar (.bottom (by omega))
  | succ levels ih => exact readLines_grammar (.above (by omega) (ih (by omega)))

/-- Whether a text is read does not depend on the place it comes from. -/
theorem Document.exists_parse_eq_ok_iff (files : FileSystem) (text : Text) (origin home : Path) :
    (∃ document, Document.parse files text origin home = .ok document) ↔
      ∀ line ∈ Text.lines text, Acceptable files home 0 line := by
  have sum : 0 + includeLimit = includeLimit := Nat.zero_add _
  unfold Document.parse
  rcases readAt_grammar files home sum text origin with
    ⟨read, acceptable⟩ | ⟨failure, spot, refused, offence, _⟩
  · exact ⟨fun _ => acceptable, fun _ => read⟩
  · simp [refused, offence.not_acceptable]

/-- A text is read exactly when all its lines are acceptable. A failure otherwise names file and line of the
first offence, unless that is the limit of levels. -/
theorem Document.parse_grammar (files : FileSystem) (text : Text) (origin home : Path) :
    ((∃ document, Document.parse files text origin home = .ok document) ↔
      ∀ line ∈ Text.lines text, Acceptable files home 0 line) ∧
    ∀ failure, Document.parse files text origin home = .error failure →
      ∃ spot, FirstOffence files home 0 origin text spot ∧ Reports failure spot := by
  have sum : 0 + includeLimit = includeLimit := Nat.zero_add _
  unfold Document.parse
  rcases readAt_grammar files home sum text origin with
    ⟨⟨document, read⟩, acceptable⟩ | ⟨failure, spot, refused, offence, reports⟩
  · refine ⟨⟨fun _ => acceptable, fun _ => ⟨document, read⟩⟩, fun failure refused => ?_⟩
    rw [read] at refused
    cases refused
  · refine ⟨⟨?_, fun acceptable => absurd acceptable offence.not_acceptable⟩, ?_⟩
    · rintro ⟨document, read⟩
      rw [refused] at read
      cases read
    · intro other same
      obtain rfl : failure = other := Except.error.inj (refused.symm.trans same)
      exact ⟨spot, offence, reports⟩

end SecureShell
