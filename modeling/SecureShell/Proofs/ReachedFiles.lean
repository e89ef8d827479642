/-
Module: SecureShell.Proofs.ReachedFiles
Purpose: Reading a configuration depends on no files but those that it reaches by its include lines: the files that
  a line of the text names, and those that the texts of such files reach. Two file systems that answer alike there
  give the same document or the same failure; so do sources and whole source lists.
Main exports: Reached, readAt_congr, Source.Reaches, Source.document_congr, SourceList.load_congr
-/
import SecureShell.Config.Store
import SecureShell.Proofs.ReadingOrder

namespace SecureShell

/-- The files that reading a text may ask for: a line of the text names them, or the text of such a file reaches
them. -/
inductive Reached (files : FileSystem) (home : Path) : (text : Text) → Path → Prop where
  | named {text line target : Text} {targets : List Text} (held : line ∈ Text.lines text)
      (said : Directive.ofLine line = .ok (some (.include targets))) (asked : target ∈ targets) :
      Reached files home text (includePath home target)
  | deeper {text line target content : Text} {targets : List Text} {path : Path}
      (held : line ∈ Text.lines text)
      (said : Directive.ofLine line = .ok (some (.include targets))) (asked : target ∈ targets)
      (read : files.readText (includePath home target) = .ok content)
      (reached : Reached files home content path) : Reached files home text path

section

variable {files other : FileSystem} {home : Path}

theorem readTarget_congr {reader reader' : TextReader} {target : Text}
    (answer : files.readText (includePath home target) = other.readText (includePath home target))
    (nested : ∀ content, files.readText (includePath home target) = .ok content →
      reader content (includePath home target) = reader' content (includePath home target))
    (origin : Path) (line : Nat) :
    readTarget files home reader origin line target = readTarget other home reader' origin line target := by
  simp only [readTarget, ← answer]
  split
  · rfl
  · rfl
  · next content held => rw [nested content held]

/-- A text is read alike by readers that treat its include targets alike. -/
theorem readLines_congr {nested nested' : Option TextReader} {text : Text} {origin : Path}
    (same : ∀ line ∈ Text.lines text, ∀ targets,
      Directive.ofLine line = .ok (some (.include targets)) → ∀ number,
        readInclude files home nested origin number targets
          = readInclude other home nested' origin number targets) :
    readLines files home nested text origin = readLines other home nested' text origin := by
  have items : ∀ numbered ∈ (Text.lines text).zipIdx 1,
      itemsOfLine files home nested origin numbered = itemsOfLine other home nested' origin numbered := by
    intro numbered member
    have line : numbered.1 ∈ Text.lines text := List.fst_mem_of_mem_zipIdx member
    unfold itemsOfLine
    split
    · rfl
    · rfl
    · rfl
    · rfl
    · next targets said => rw [same numbered.1 line targets said]
  rw [readLines, readLines, mapM_congr items]

/-- Reading depends on the reached files only. -/
theorem readAt_congr {levels : Nat} {text : Text} {origin : Path}
    (alike : ∀ path, Reached files home text path → files.readText path = other.readText path) :
    readAt files home levels text origin = readAt other home levels text origin := by
  -- on the levels of includes: what an included text reaches is reached by the text that includes it
  induction levels generalizing text origin with
  | zero => exact readLines_congr fun _ _ _ _ _ => rfl
  | succ levels ih =>
      refine readLines_congr fun line held targets said number => ?_
      have each : ∀ target ∈ targets,
          readTarget files home (readAt files home levels) origin number target
            = readTarget other home (readAt other home levels) origin number target := by
        intro target asked
        refine readTarget_congr (alike _ (.named held said asked)) (fun content read => ih ?_) origin number
        exact fun path reached => alike path (.deeper held said asked read reached)
      rw [readInclude, readInclude, mapM_congr each]

end

/-- The files that reading a source may ask for. -/
def Source.Reaches (files : FileSystem) (home : Path) (source : Source) (path : Path) : Prop :=
  ∃ text, Utf8.decode source.content = .ok text ∧ Reached files home (anchorIncludes home text) path

section

variable {files other : FileSystem} {home : Path}

theorem Source.document_congr {source : Source}
    (alike : ∀ path, source.Reaches files home path → files.readText path = other.readText path) :
    source.document files home = source.document other home := by
  unfold document
  split
  · rfl
  · next text decoded => exact readAt_congr fun path reached => alike path ⟨text, decoded, reached⟩

theorem SourceList.load_congr {list : SourceList}
    (alike : ∀ source ∈ list.sources, ∀ path, source.Reaches files home path →
      files.readText path = other.readText path) : list.load files home = list.load other home := by
  have all : ∀ sources, (∀ source ∈ sources, source.document files home = source.document other home) →
      loadAll files home sources = loadAll other home sources := by
    intro sources same
    induction sources with
    | nil => rfl
    | cons source rest ih =>
        rw [loadAll, loadAll, same source List.mem_cons_self,
          ih fun later member => same later (List.mem_cons_of_mem _ member)]
  rw [load, load, all _ fun source member => Source.document_congr (alike source member)]

end

end SecureShell
