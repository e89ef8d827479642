/-
Module: SecureShell.Proofs.IncludeNesting
Purpose: Includes nest to a fixed depth only. Reading comes to an end whatever files include each other, since every
  included text is read one level deeper and nothing is included at the limit of levels. A text that can be read
  leads to no file that is farther away than the limit, hence to none that leads back to itself, and the files at
  the limit have no include line at all; so a text from which such files are reached is refused as a whole.
Main exports: Names, IncludeChain, Recurs, Decoded, decoded_iff, IncludeChain.accepted, Document.parse_nesting
-/
import SecureShell.Proofs.Acceptance
import SecureShell.Proofs.ReachedFiles

namespace SecureShell

open Directive

/-! ### Files that lead to files -/

/-- A text names a file as a target of one of its include lines. -/
def Names (home : Path) (text : Text) (path : Path) : Prop :=
  ∃ line ∈ Text.lines text, ∃ targets, ofLine line = .ok (some (.include targets)) ∧
    ∃ target ∈ targets, path = includePath home target

/-- A chain of a number of files, of which the text names the first and each the next; the last is given, and all of
them exist. -/
inductive IncludeChain (files : FileSystem) (home : Path) : (text : Text) → (length : Nat) → (last : Path) → Prop where
  | named {text : Text} {path : Path} (names : Names home text path)
      (there : files.readText path ≠ .error .notFound) : IncludeChain files home text 1 path
  | deeper {text content : Text} {path last : Path} {length : Nat} (names : Names home text path)
      (held : files.readText path = .ok content) (rest : IncludeChain files home content length last) :
      IncludeChain files home text (length + 1) last

/-- A file leads back to the text that it holds, in a file of the same name or of another one. -/
def Recurs (files : FileSystem) (home path : Path) : Prop :=
  ∃ content length last, files.readText path = .ok content ∧ IncludeChain files home content length last ∧
    files.readText last = .ok content

/-! ### Reading ends -/

/-- What reading a text at a depth comes to, if every text that it includes is read by a call of its own one level
deeper. The relation is inductive, so that a call that never came back would stand in no derivation. -/
inductive Decoded (files : FileSystem) (home : Path) :
    (depth : Nat) → (text : Text) → (origin : Path) → Except SyntaxError Document → Prop where
  | limit {depth : Nat} {text : Text} {origin : Path} (deep : includeLimit ≤ depth) :
      Decoded files home depth text origin (readLines files home none text origin)
  | above {depth : Nat} {text : Text} {origin : Path} {reader : TextReader} (shallow : depth < includeLimit)
      (nested : ∀ path content, Names home text path → files.readText path = .ok content →
        Decoded files home (depth + 1) content path (reader content path)) :
      Decoded files home depth text origin (readLines files home (some reader) text origin)

variable {files : FileSystem} {home : Path}

theorem decoded_readAt {depth levels : Nat} (sum : depth + levels = includeLimit) (text : Text) (origin : Path) :
    Decoded files home depth text origin (readAt files home levels text origin) := by
  induction levels generalizing depth text origin with
  | zero => exact .limit (by omega)
  | succ levels ih => exact .above (by omega) fun path content _ _ => ih (by omega) content path

/-- All derivations come to the same. -/
theorem Decoded.eq_readAt {depth : Nat} {text : Text} {origin : Path} {result : Except SyntaxError Document}
    (decoded : Decoded files home depth text origin result) :
    result = readAt files home (includeLimit - depth) text origin := by
  induction decoded with
  | limit deep =>
      rw [Nat.sub_eq_zero_of_le deep]
      rfl
  | @above depth text origin reader shallow nested ih =>
      rw [show includeLimit - depth = includeLimit - (depth + 1) + 1 by omega, readAt]
      refine readLines_congr fun line held targets said number => ?_
      have each : ∀ target ∈ targets, readTarget files home reader origin number target
          = readTarget files home (readAt files home (includeLimit - (depth + 1))) origin number target := by
        intro target asked
        refine readTarget_congr rfl (fun content read => ?_) origin number
        exact ih _ content ⟨line, held, targets, said, target, asked, rfl⟩ read
      rw [readInclude, readInclude, mapM_congr each]

theorem decoded_iff {text : Text} {origin : Path} {result : Except SyntaxError Document} :
    Decoded files home 0 text origin result ↔ result = Document.parse files text origin home := by
  constructor
  · exact Decoded.eq_readAt
  · rintro rfl
    exact decoded_readAt (Nat.zero_add _) text origin

/-! ### Where an accepted text leads -/

variable {depth : Nat} {text : Text}

/-- What an acceptable line names is passable, and the line does not stand at the limit. -/
theorem Names.passable {path : Path} (names : Names home text path)
    (accepted : ∀ line ∈ Text.lines text, Acceptable files home depth line) :
    depth < includeLimit ∧ (files.readText path = .error .notFound ∨
      ∃ content, files.readText path = .ok content ∧
        ∀ inner ∈ Text.lines content, Acceptable files home (depth + 1) inner) := by
  obtain ⟨line, held, targets, read, target, asked, rfl⟩ := names
  have outcome := ofLine_outcome line
  rw [read] at outcome
  cases outcome with
  | «include» said value named split =>
      obtain ⟨shallow, passable⟩ := (acceptable_include_iff said value named split).mp (accepted line held)
      exact ⟨shallow, passable target asked⟩

/-- An accepted text leads to no file beyond the limit, and the file that it leads to is accepted at its depth. -/
theorem IncludeChain.accepted {length : Nat} {last : Path} (chain : IncludeChain files home text length last)
    (accepted : ∀ line ∈ Text.lines text, Acceptable files home depth line) :
    0 < length ∧ depth + length ≤ includeLimit ∧ ∃ content, files.readText last = .ok content ∧
      ∀ inner ∈ Text.lines content, Acceptable files home (depth + length) inner := by
  induction chain generalizing depth with
  | named names there =>
      obtain ⟨shallow, absent | passable⟩ := names.passable accepted
      · exact absurd absent there
      · exact ⟨Nat.one_pos, shallow, passable⟩
  | @deeper text content path last length names held _ ih =>
      obtain ⟨-, absent | ⟨other, again, inner⟩⟩ := names.passable accepted
      · rw [held] at absent
        cases absent
      · obtain rfl : content = other := Except.ok.inj (held.symm.trans again)
        obtain ⟨-, within, found⟩ := ih inner
        rw [show depth + 1 + length = depth + (length + 1) by omega] at within found
        exact ⟨Nat.succ_pos length, within, found⟩

/-- A text that leads back to itself is accepted at no depth: it would be accepted as much deeper as it is away from
itself, and so beyond the limit. -/
theorem IncludeChain.not_accepted {length : Nat} {last : Path} (chain : IncludeChain files home text length last)
    (back : files.readText last = .ok text) :
    ¬ ∀ line ∈ Text.lines text, Acceptable files home depth line := by
  -- on the distance to the limit, which is smaller at every return
  induction left : includeLimit - depth using Nat.strongRecOn generalizing depth with
  | ind distance ih =>
      intro accepted
      obtain ⟨away, within, content, held, deeper⟩ := chain.accepted accepted
      obtain rfl : text = content := Except.ok.inj (back.symm.trans held)
      exact ih (includeLimit - (depth + length)) (by omega) rfl deeper

/-- At the limit no include line is accepted, whatever it names. -/
theorem not_acceptable_of_limit {line : Text} (named : HasKeyword line "include".toList)
    (deep : includeLimit ≤ depth) : ¬ Acceptable files home depth line := by
  intro acceptable
  obtain ⟨keyword, rest, said, spelled⟩ := named
  have regular := acceptable.regular said
  obtain ⟨targets, split⟩ := arguments_of_balanced (regular.closed (not_sameLetters_of spelled (by decide)))
  have shallow := ((acceptable_include_iff said regular.value spelled split).mp acceptable).1
  exact absurd shallow (Nat.not_lt.mpr deep)

namespace Document

/-- Reading a text ends with one result, whatever files there are. If that is a document, every chain of included files
has at most sixteen, no file that is reached leads back to itself, and the files at the sixteenth place hold no include
line, not even one whose targets are missing. So a text that leads to more than sixteen files in a row, or to one that
leads back to itself, is refused. -/
theorem parse_nesting (files : FileSystem) (text : Text) (origin home : Path) :
    (∀ result, Decoded files home 0 text origin result ↔ result = parse files text origin home) ∧
    (∀ document, parse files text origin home = .ok document →
      (∀ length last, IncludeChain files home text length last → length ≤ 16) ∧
      (∀ length last, IncludeChain files home text length last → ¬ Recurs files home last) ∧
      ∀ last content, IncludeChain files home text 16 last → files.readText last = .ok content →
        ∀ line ∈ Text.lines content, ¬ HasKeyword line "include".toList) ∧
    ((∃ length last, IncludeChain files home text length last ∧ (16 < length ∨ Recurs files home last)) →
      ∃ failure, parse files text origin home = .error failure) := by
  have bounded : ∀ document, parse files text origin home = .ok document →
      ∀ length last, IncludeChain files home text length last → length ≤ 16 ∧ ¬ Recurs files home last := by
    intro document read length last chain
    have accepted := (exists_parse_eq_ok_iff files text origin home).mp ⟨document, read⟩
    obtain ⟨-, within, content, held, deeper⟩ := chain.accepted accepted
    have near : length ≤ includeLimit := by omega
    refine ⟨near, ?_⟩
    rintro ⟨other, more, target, again, loop, back⟩
    obtain rfl : content = other := Except.ok.inj (held.symm.trans again)
    exact loop.not_accepted back deeper
  refine ⟨fun result => decoded_iff, fun document read => ⟨?_, ?_, ?_⟩, ?_⟩
  · exact fun length last chain => (bounded document read length last chain).1
  · exact fun length last chain => (bounded document read length last chain).2
  · intro last content chain held line within named
    have accepted := (exists_parse_eq_ok_iff files text origin home).mp ⟨document, read⟩
    obtain ⟨-, -, other, again, deeper⟩ := chain.accepted accepted
    obtain rfl : content = other := Except.ok.inj (held.symm.trans again)
    exact not_acceptable_of_limit named (Nat.le_refl includeLimit) (deeper line within)
  · rintro ⟨length, last, chain, tooFar⟩
    cases read : parse files text origin home with
    | error failure => exact ⟨failure, rfl⟩
    | ok document =>
        obtain ⟨near, straight⟩ := bounded document read length last chain
        rcases tooFar with far | recurs
        · exact absurd far (Nat.not_lt.mpr near)
        · exact absurd recurs straight

end Document

end SecureShell
