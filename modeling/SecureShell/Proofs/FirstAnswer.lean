/-
Module: SecureShell.Proofs.FirstAnswer
Purpose: What the form of read documents means for a lookup in several sources. No document has an empty value, so the
  test for one drops nothing: the first source whose document has any value for a keyword on a host supplies the
  answer, and the built-in value is the answer only if no document has one.
Main exports: Store.FirstToAnswer, Store.valueIn_eq_get, Store.getWithBase_firstToAnswer, Document.parse_wellFormed
-/
import SecureShell.Proofs.CallerHistory
import SecureShell.Proofs.EncodedText
import SecureShell.Proofs.LayeredLookup
import SecureShell.Proofs.ReadingParts

namespace SecureShell

namespace Store

/-- The value of the first source whose document has any, with the directory of the source, or the built-in value if
no document has one. -/
inductive FirstToAnswer (store : Store) (host keyword : Text) : Text × Option Path → Prop where
  | source {before after : List LoadedSource} {source : LoadedSource} {value : Text}
      (row : store.sources = before ++ source :: after)
      (earlier : ∀ other ∈ before, other.document.get host keyword = none)
      (has : source.document.get host keyword = some value) :
      FirstToAnswer store host keyword (value, source.path.parent?)
  | builtin (silent : ∀ source ∈ store.sources, source.document.get host keyword = none) :
      FirstToAnswer store host keyword (builtinValue keyword, none)

/-- The test for an empty value drops nothing. -/
theorem valueIn_eq_get {source : LoadedSource} (valued : Document.Valued source.document.blocks)
    (host keyword : Text) : valueIn host keyword source = source.document.get host keyword := by
  rw [valueIn_eq valued, Document.get_eq_firstValue]

theorem getWithBase_firstToAnswer {store : Store} (valued : store.Valued) (host keyword : Text) :
    store.FirstToAnswer host keyword (store.getWithBase host keyword) := by
  unfold getWithBase find?
  cases found : store.sources.findSome? fun source =>
      (valueIn host keyword source).map fun value => (value, source.path.parent?) with
  | none =>
      apply FirstToAnswer.builtin
      intro source member
      have nothing := List.findSome?_eq_none_iff.mp found source member
      rwa [Option.map_eq_none_iff, valueIn_eq_get (valued source member)] at nothing
  | some answer =>
      obtain ⟨before, source, after, row, has, earlier⟩ := List.findSome?_eq_some_iff.mp found
      obtain ⟨value, given, rfl⟩ := Option.map_eq_some_iff.mp has
      have present : source ∈ store.sources := by simp [row]
      rw [valueIn_eq_get (valued source present)] at given
      apply FirstToAnswer.source row _ given
      intro other member
      have nothing := earlier other member
      have among : other ∈ store.sources := by simp [row, member]
      rwa [Option.map_eq_none_iff, valueIn_eq_get (valued other among)] at nothing

end Store

namespace Document

/-- Every document that is read has the form of a document, and so has every document within it: the first block is
open to every host, each block has a pattern, and each setting has a keyword and a value of the right form. In a store
of such documents the test for an empty value drops nothing, and the answer is that of the first source whose document
has any. -/
theorem parse_wellFormed (files : FileSystem) (home : Path) :
    (∀ text origin document, parse files text origin home = .ok document →
      ∀ inner, document.Holds inner → inner.WellFormed) ∧
    ∀ list store, SourceList.load files home list = .ok store → ∀ host keyword,
      (∀ source ∈ store.sources, Store.valueIn host keyword source = source.document.get host keyword) ∧
        store.FirstToAnswer host keyword (store.getWithBase host keyword) := by
  constructor
  · intro text origin document read
    exact readAt_wellFormed read
  · intro list store loaded host keyword
    have valued := SourceList.load_valued loaded
    constructor
    · intro source member
      exact Store.valueIn_eq_get (valued source member) host keyword
    · exact Store.getWithBase_firstToAnswer valued host keyword

/-- A block that includes a file with blocks of its own, and two sources of which only the second sets the keyword. -/
theorem parse_wellFormed_nested :
    let files := FileSystem.holding ⟨"/e".toList⟩ (.ok (Text.utf8 "Host b\n Port=7".toList))
    let home : Path := ⟨"/h".toList⟩
    let inner : Document := ⟨[.scoped [.any] [],
      .scoped [.ofText "b".toList] [.setting "Port".toList "7".toList]]⟩
    let list : SourceList := ⟨[⟨⟨"/c/one".toList⟩, Text.utf8 "Host b\nUser x".toList, true⟩,
      ⟨⟨"/d/two".toList⟩, Text.utf8 "Port 7".toList, false⟩]⟩
    (∃ document, parse files "Host a\nInclude /e\n".toList ⟨"/c".toList⟩ home = .ok document ∧
      document.Holds inner ∧ inner.WellFormed) ∧
    ∃ store, list.load files home = .ok store ∧
      store.FirstToAnswer "b".toList "port".toList ("7".toList, some ⟨"/d".toList⟩) := by
  intro files home inner list
  obtain ⟨forms, answers⟩ := parse_wellFormed files home
  constructor
  · have held : files.readText ⟨"/e".toList⟩ = .ok "Host b\n Port=7".toList :=
      FileSystem.readText_eq_ok_iff.mpr ⟨_, rfl, Utf8.decode_text _⟩
    have decoded : readAt files home 15 "Host b\n Port=7".toList ⟨"/e".toList⟩ = .ok inner := rfl
    have host : itemsOfLine files home (deeper? files home includeLimit) ⟨"/c".toList⟩ ("Host a".toList, 1)
        = .ok [.opening [.ofText "a".toList]] := rfl
    have said : Directive.ofLine "Include /e".toList = .ok (some (.include ["/e".toList])) := by decide
    have path : includePath home "/e".toList = ⟨"/e".toList⟩ := rfl
    have includes : itemsOfLine files home (deeper? files home includeLimit) ⟨"/c".toList⟩ ("Include /e".toList, 2)
        = .ok [.entry (.included inner.blocks)] := by
      simp only [itemsOfLine, said, readInclude, deeper?, includeLimit, List.mapM_cons, readTarget, path, held, decoded]
      rfl
    have yields : Yields files home (deeper? files home includeLimit) (Text.lines "Host a\nInclude /e\n".toList)
        [.opening [.ofText "a".toList], .entry (.included inner.blocks)] := .cons host (.cons includes .nil)
    have read : parse files "Host a\nInclude /e\n".toList ⟨"/c".toList⟩ home = .ok _ :=
      parse_eq_ok_iff.mpr ⟨_, yields, rfl⟩
    have holds : Holds (ofItems [.opening [.ofText "a".toList], .entry (.included inner.blocks)]) inner :=
      .included (List.mem_cons_of_mem _ List.mem_cons_self) List.mem_cons_self .itself
    exact ⟨_, read, holds, forms _ _ _ read inner holds⟩
  · let store : Store := ⟨[⟨⟨"/c/one".toList⟩, ⟨[.scoped [.any] [],
        .scoped [.ofText "b".toList] [.setting "User".toList "x".toList]]⟩⟩,
      ⟨⟨"/d/two".toList⟩, ⟨[.scoped [.any] [.setting "Port".toList "7".toList]]⟩⟩]⟩
    have loaded : list.load files home = .ok store := by
      simp only [list, SourceList.load, SourceList.loadAll, Source.document, Utf8.decode_text]
      rfl
    have general : HostPattern.selects [.any] "b".toList = true := by
      simp [HostPattern.selects, HostPattern.scan, HostPattern.matches, HostPattern.any, Glob.matches, Glob.seek,
        Glob.attempt]
    have own : HostPattern.selects [.ofText "b".toList] "b".toList = true := by decide
    have value : store.getWithBase "b".toList "port".toList = ("7".toList, some ⟨"/d".toList⟩) := by
      simp only [store, Store.getWithBase, Store.find?, Store.valueIn, get, List.findSome?_cons, findInBlocks,
        findInBlock, general, own]
      decide
    have first := (answers list store loaded "b".toList "port".toList).2
    rw [value] at first
    exact ⟨store, loaded, first⟩

end Document

end SecureShell
