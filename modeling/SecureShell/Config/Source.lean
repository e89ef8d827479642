/-
Module: SecureShell.Config.Source
Purpose: Configuration sources and the ordered list of them, highest priority first. A source is a file or
  data in memory; data is named after the digest of its content, so that equal data is the same source.
  Adding a source at either end keeps, of the sources with the same path, only the first.
Main exports: Source, Source.ofFile, Source.ofData, Source.document, SourceList, SourceList.unshift,
  SourceList.append, SourceList.clear, SourceList.defaults
-/
import SecureShell.Bytes.Hex
import SecureShell.Config.Anchoring
import SecureShell.Config.Reading
import SecureShell.Digest.Sha256
import SecureShell.Path.Expansion

namespace SecureShell

/-- A configuration before it is read. An optional source is left out when it cannot be read as a
configuration. -/
structure Source where
  path : Path
  content : Bytes
  isOptional : Bool
deriving DecidableEq, Repr

namespace Source

/-- A file named by a path as the user writes it. -/
def ofFile (files : FileSystem) (written : Text) (directory home : Path) :
    Except ConfigFailure Source :=
  let path := Path.expand written directory home
  match files.read path with
  | .error cause => .error (.unreadableConfig path cause)
  | .ok content => .ok ⟨path, content, false⟩

/-- Data in memory, placed in a directory under the digest of its content. -/
def ofData (content : Bytes) (directory : Path) : Source :=
  ⟨directory.join (Hex.encode (Digest.Sha256.digest content)), content, false⟩

/-- The document of a source, with its include lines anchored. -/
def document (files : FileSystem) (home : Path) (source : Source) : Except SyntaxError Document :=
  match Utf8.decode source.content with
  | .error fault => .error ⟨source.path, 0, .notText fault⟩
  | .ok text => Document.parse files (anchorIncludes home text) source.path home

end Source

/-- Sources in order of priority. -/
structure SourceList where
  sources : List Source
deriving DecidableEq, Repr

namespace SourceList

/-- The list without sources. -/
def empty : SourceList := ⟨[]⟩

/-- Drops every source whose path has the steps of one seen before. -/
def keepFirst (seen : List (List Component)) : List Source → List Source
  | [] => []
  | source :: rest =>
      let steps := source.path.components
      if steps ∈ seen then keepFirst seen rest else source :: keepFirst (steps :: seen) rest

/-- Puts a source at the highest priority. -/
def unshift (list : SourceList) (source : Source) : SourceList :=
  ⟨keepFirst [] (source :: list.sources)⟩

/-- Puts a source at the lowest priority. -/
def append (list : SourceList) (source : Source) : SourceList :=
  ⟨keepFirst [] (list.sources ++ [source])⟩

/-- Drops every source. -/
def clear (_list : SourceList) : SourceList := empty

/-- The paths of the sources in order. -/
def paths (list : SourceList) : List Path :=
  list.sources.map Source.path

/-- The files looked for when the caller names none. -/
def defaultPaths : List Text :=
  ["~/.ssh/config".toList, "/etc/ssh/ssh_config".toList]

/-- Adds a default file if its name is taken; then it has to be readable. -/
def appendDefault (files : FileSystem) (directory home : Path) (list : SourceList) (written : Text) :
    Except ConfigFailure SourceList :=
  let path := Path.expand written directory home
  if files.present path then
    match files.read path with
    | .error cause => .error (.unreadableConfig path cause)
    | .ok content => .ok (list.append ⟨path, content, true⟩)
  else .ok list

/-- The default files that exist, as optional sources. -/
def defaults (files : FileSystem) (directory home : Path) : Except ConfigFailure SourceList :=
  defaultPaths.foldlM (appendDefault files directory home) empty

end SourceList

end SecureShell
