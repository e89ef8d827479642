/-
Module: SecureShell.Config.Store
Purpose: The read sources, which answer for a host and a keyword. An optional source that cannot be read
  is left out; any other makes the whole list fail. The first source with a value wins, and the answer
  tells the directory of that source; when no source has one, the built-in value is the answer.
Main exports: LoadedSource, Store, SourceList.load, Store.find?, Store.getWithBase, Store.get
-/
import SecureShell.Config.Builtin
import SecureShell.Config.Source

namespace SecureShell

/-- A source that has been read. -/
structure LoadedSource where
  path : Path
  document : Document

/-- The read sources, highest priority first. -/
structure Store where
  sources : List LoadedSource

namespace SourceList

/-- Reads sources in order. -/
def loadAll (files : FileSystem) (home : Path) : List Source → Except SyntaxError (List LoadedSource)
  | [] => .ok []
  | source :: rest =>
      match source.document files home with
      | .ok document => (loadAll files home rest).map (⟨source.path, document⟩ :: ·)
      | .error failure =>
          if source.isOptional then loadAll files home rest else .error failure

/-- The store of a source list. -/
def load (files : FileSystem) (home : Path) (list : SourceList) : Except SyntaxError Store :=
  (loadAll files home list.sources).map Store.mk

end SourceList

namespace Store

/-- The store without sources. -/
def empty : Store := ⟨[]⟩

/-- The value of a source, unless it is empty. -/
def valueIn (host keyword : Text) (source : LoadedSource) : Option Text :=
  (source.document.get host keyword).filter (· ≠ [])

/-- The first value among the sources with the directory of its source. -/
def find? (store : Store) (host keyword : Text) : Option (Text × Option Path) :=
  store.sources.findSome? fun source =>
    (valueIn host keyword source).map fun value => (value, source.path.parent?)

/-- The value for a host and a keyword, with the directory of the source that gives it. -/
def getWithBase (store : Store) (host keyword : Text) : Text × Option Path :=
  (store.find? host keyword).getD (builtinValue keyword, none)

/-- The value for a host and a keyword. -/
def get (store : Store) (host keyword : Text) : Text :=
  (store.getWithBase host keyword).1

/-- The paths of the read sources in order. -/
def paths (store : Store) : List Path :=
  store.sources.map LoadedSource.path

end Store

end SecureShell
