/-
Module: SecureShell.Config.Reading
Purpose: From a configuration text to its document. Every line gives items: the beginning of a block or
  entries; the items are then grouped into blocks, the first of which is open to every host. An include
  line reads its targets in order, one level deeper; a target that does not exist is passed over, and at
  the limit of levels an include line is an error even if no target exists.
Main exports: includePath, Item, grouped, readInclude, itemsOfLine, readAt, Document.parse
-/
import SecureShell.Config.Directive
import SecureShell.Config.Document

namespace SecureShell

/-- A line contributes the beginning of a block or an entry of the open one. -/
inductive Item where
  | opening (patterns : List HostPattern)
  | entry (entry : ConfigEntry)

/-- The entries before the first block beginning, and the blocks. -/
def grouped : List Item → List ConfigEntry × List Block
  | [] => ([], [])
  | .entry entry :: rest =>
      let later := grouped rest
      (entry :: later.1, later.2)
  | .opening patterns :: rest =>
      let later := grouped rest
      ([], .scoped patterns later.1 :: later.2)

/-- The document of items: what precedes the first host line belongs to every host. -/
def Document.ofItems (items : List Item) : Document :=
  let parts := grouped items
  ⟨.scoped [HostPattern.any] parts.1 :: parts.2⟩

/-- The file that an include target names: a tilde is the home directory, an absolute path stands for
itself, and anything else is looked for in the directory `.ssh` of the home directory. -/
def includePath (home : Path) : Text → Path
  | '~' :: rest => home.join (rest.dropWhile (· = '/'))
  | '/' :: rest => ⟨'/' :: rest⟩
  | target => (home.join ".ssh".toList).join target

/-- How the text of an included file becomes a document. -/
abbrev TextReader := Text → Path → Except SyntaxError Document

/-- The entry for one include target of the line `line` in `origin`, if the target exists. -/
def readTarget (files : FileSystem) (home : Path) (nested : TextReader) (origin : Path) (line : Nat)
    (target : Text) : Except SyntaxError (Option ConfigEntry) :=
  let path := includePath home target
  match files.readText path with
  | .error .notFound => .ok none
  | .error cause => .error ⟨origin, line, .includeUnreadable path cause⟩
  | .ok text =>
      match nested text path with
      | .error failure => .error failure
      | .ok document => .ok (some (.included document.blocks))

/-- The entries of an include line; without a reader for a deeper level the line is an error that names
its targets. -/
def readInclude (files : FileSystem) (home : Path) (nested : Option TextReader) (origin : Path)
    (line : Nat) (targets : List Text) : Except SyntaxError (List ConfigEntry) :=
  match nested with
  | none => .error ⟨⟨List.intercalate [' '] targets⟩, 0, .includeTooDeep⟩
  | some reader => do
      let entries ← targets.mapM (readTarget files home reader origin line)
      pure (entries.filterMap id)

/-- The items of one line. -/
def itemsOfLine (files : FileSystem) (home : Path) (nested : Option TextReader) (origin : Path)
    (numbered : Text × Nat) : Except SyntaxError (List Item) :=
  match Directive.ofLine numbered.1 with
  | .error fault => .error ⟨origin, numbered.2, fault⟩
  | .ok none => .ok []
  | .ok (some (.host patterns)) => .ok [.opening (patterns.map HostPattern.ofText)]
  | .ok (some (.setting keyword value)) => .ok [.entry (.setting keyword value)]
  | .ok (some (.include targets)) =>
      (readInclude files home nested origin numbered.2 targets).map fun entries =>
        entries.map Item.entry

/-- Reads all lines in order, numbered from one, and stops at the first error. -/
def readLines (files : FileSystem) (home : Path) (nested : Option TextReader) (text : Text)
    (origin : Path) : Except SyntaxError Document := do
  let items ← ((Text.lines text).zipIdx 1).mapM (itemsOfLine files home nested origin)
  pure (Document.ofItems items.flatten)

/-- Reads a text that may have `levels` levels of included files below it. -/
def readAt (files : FileSystem) (home : Path) : (levels : Nat) → TextReader
  | 0 => readLines files home none
  | levels + 1 => readLines files home (some (readAt files home levels))

/-- The document of a text that was read from `origin`. -/
def Document.parse (files : FileSystem) (text : Text) (origin home : Path) :
    Except SyntaxError Document :=
  readAt files home includeLimit text origin

end SecureShell
