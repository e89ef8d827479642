/-
Module: SecureShell.Proofs.AppendedText
Purpose: Configuration that is written behind a text changes no answer that the text has given: the first lines behind
  it may go on with its last block, but they come after everything that the block holds. What begins with a host line
  is a text of its own, which is asked only where the text in front has no answer.
Main exports: OpensWithHost, Yields.opening, Document.parse_append
-/
import SecureShell.Proofs.CallerHistory
import SecureShell.Proofs.LineGrammar
import SecureShell.Proofs.ReadingParts

namespace SecureShell

open Directive

/-- A host line that can be read says its patterns. -/
theorem Directive.HasKeyword.ofLine_host {line : Text} (host : HasKeyword line "host".toList)
    {said : Option Directive} (read : ofLine line = .ok said) : ∃ patterns, said = some (.host patterns) := by
  obtain ⟨keyword, rest, parts, named⟩ := host
  have folded : Text.lower keyword = "host".toList := named
  rw [parts.ofLine_eq, ofKeyword, if_pos folded] at read
  by_cases empty : rest = []
  · simp [empty, Except.map] at read
  · rw [if_neg empty] at read
    cases split : arguments rest with
    | error fault => simp [split, Except.map] at read
    | ok patterns =>
        by_cases none : patterns = []
        · simp [split, none, Except.map] at read
        · exact ⟨patterns, by simpa [split, none, Except.map] using read.symm⟩

/-- The first line of a text that has content is a host line. -/
def OpensWithHost (text : Text) : Prop :=
  ∃ idle line later, Text.lines text = idle ++ line :: later ∧ (∀ other ∈ idle, Silent other) ∧
    HasKeyword line "host".toList

variable {files : FileSystem} {home : Path} {reader : Option TextReader}

theorem itemsOfLine_silent {line : Text} (silent : Silent line) (origin : Path) (number : Nat) :
    itemsOfLine files home reader origin (line, number) = .ok [] := by
  simp only [itemsOfLine, ofLine_of_silent silent]

theorem itemsOfLine_host {line : Text} (host : HasKeyword line "host".toList) {origin : Path} {number : Nat}
    {items : List Item} (read : itemsOfLine files home reader origin (line, number) = .ok items) :
    ∃ patterns, items = [.opening patterns] := by
  unfold itemsOfLine at read
  cases said : ofLine line with
  | error fault => simp [said] at read
  | ok result =>
      obtain ⟨patterns, rfl⟩ := host.ofLine_host said
      exact ⟨patterns.map HostPattern.ofText, by simpa [said] using read.symm⟩

/-- The items of such a text begin with a block. -/
theorem Yields.opening {idle later : List Text} {line : Text} {items : List Item}
    (yields : Yields files home reader (idle ++ line :: later) items) (silent : ∀ other ∈ idle, Silent other)
    (host : HasKeyword line "host".toList) : ∃ patterns rest, items = .opening patterns :: rest := by
  induction idle generalizing items with
  | nil =>
      cases yields with
      | @cons _ _ _ behind _ _ first _ =>
          obtain ⟨patterns, rfl⟩ := itemsOfLine_host host first
          exact ⟨patterns, behind, rfl⟩
  | cons head idle ih =>
      cases yields with
      | @cons _ _ _ _ origin number first behind =>
          have nothing : itemsOfLine files home reader origin (head, number) = .ok [] :=
            itemsOfLine_silent (silent head List.mem_cons_self) origin number
          obtain rfl := Except.ok.inj (nothing.symm.trans first)
          exact ih behind fun other member => silent other (List.mem_cons_of_mem _ member)

namespace Document

/-- A block beginning makes what is open in front of it irrelevant. -/
theorem search_opening (host keyword : Text) (selected other : Bool) (patterns : List HostPattern)
    (rest : List Item) :
    search host keyword selected (.opening patterns :: rest) = search host keyword other (.opening patterns :: rest) :=
  rfl

/-- What is written behind a text that ends its last line: if the whole can be read, so can the text, and every value
that is found in it is found in the whole. If what is written there begins with a host line, it can be read on its own
and gives the values that the text in front does not have. -/
theorem parse_append {front back : Text} {origin : Path} {whole : Document} (ended : Text.EndsLine front)
    (read : parse files (front ++ back) origin home = .ok whole) :
    ∃ first, parse files front origin home = .ok first ∧
      (∀ host keyword value, first.get host keyword = some value → whole.get host keyword = some value) ∧
      (OpensWithHost back → ∃ second, parse files back origin home = .ok second ∧
        ∀ host keyword, whole.get host keyword = (first.get host keyword).or (second.get host keyword)) := by
  obtain ⟨items, yields, rfl⟩ := parse_eq_ok_iff.mp read
  rw [Text.lines_append ended] at yields
  obtain ⟨before, after, readBefore, readAfter, rfl⟩ := yields_append_iff.mp yields
  have both : ∀ host keyword, (ofItems (before ++ after)).get host keyword =
      ((ofItems before).get host keyword).or
        (search host keyword (selectedBehind host (HostPattern.selects [.any] host) before) after) := by
    intro host keyword
    rw [get_ofItems, get_ofItems, search_append]
  refine ⟨ofItems before, parse_eq_ok_iff.mpr ⟨before, readBefore, rfl⟩, ?_, ?_⟩
  · intro host keyword value found
    rw [both, found, Option.some_or]
  · rintro ⟨idle, line, later, row, silent, opens⟩
    refine ⟨ofItems after, parse_eq_ok_iff.mpr ⟨after, readAfter, rfl⟩, fun host keyword => ?_⟩
    rw [row] at readAfter
    obtain ⟨patterns, rest, rfl⟩ := readAfter.opening silent opens
    rw [both, get_ofItems host keyword (.opening patterns :: rest)]
    exact congrArg _ (search_opening host keyword _ _ patterns rest)

/-- A block for one host with one for all hosts behind it. -/
theorem parse_append_blocks :
    let files := FileSystem.holding ⟨"/c".toList⟩ (.ok [])
    let front := "User x\nHost a\n Port 7\n".toList
    let back := "# more\r\nHost *\n User y\n Port 1".toList
    ∃ first second whole, parse files front ⟨"/c".toList⟩ ⟨"/h".toList⟩ = .ok first ∧
      parse files back ⟨"/c".toList⟩ ⟨"/h".toList⟩ = .ok second ∧
      parse files (front ++ back) ⟨"/c".toList⟩ ⟨"/h".toList⟩ = .ok whole ∧
      ∀ host keyword, whole.get host keyword = (first.get host keyword).or (second.get host keyword) := by
  intro files front back
  obtain ⟨whole, read⟩ : ∃ whole, parse files (front ++ back) ⟨"/c".toList⟩ ⟨"/h".toList⟩ = .ok whole := ⟨_, rfl⟩
  have opens : OpensWithHost back :=
    ⟨["# more".toList], "Host *".toList, [" User y".toList, " Port 1".toList], rfl,
      fun other member => List.mem_singleton.mp member ▸ .inr rfl,
      "Host".toList, "*".toList, ⟨by rintro (empty | comment) <;> contradiction, rfl⟩, rfl⟩
  obtain ⟨first, readFirst, -, split⟩ := parse_append (.inr rfl) read
  obtain ⟨second, readSecond, answers⟩ := split opens
  exact ⟨first, second, whole, readFirst, readSecond, read, answers⟩

end Document

end SecureShell
