/-
Module: SecureShell.FileSystem.Tree
Purpose: A file system given by its entries: files, directories, symbolic links and sockets at places
  below the root. A path is walked step by step; a link in the way is replaced by its target, at most
  forty times; a link at the end is followed unless the name itself is asked about.
Main exports: Entry, Tree, Tree.walk, Tree.resolve, Tree.toFileSystem, Tree.socket, Tree.put,
  Tree.erase, Tree.renamed
-/
import SecureShell.FileSystem.Basic

namespace SecureShell.FileSystem

/-- What a place holds. -/
inductive Node where
  | file (content : Bytes)
  | directory
  | link (target : Text)
  | socket
deriving DecidableEq, Repr

/-- A place, named by the steps that lead to it from the root. -/
abbrev Place := List Text

/-- The entries of a file system; the root is a directory without being listed. -/
structure Tree where
  entries : List (Place × Node)
deriving Repr

namespace Tree

/-- Nothing but the root. -/
def empty : Tree := ⟨[]⟩

/-- The name of a directory that has been removed. No step of a path is called so: only a process that is
there already finds itself in such a directory. -/
def removedName : Text := ['/']

/-- A directory that has been removed from a place; the way out of it still leads there. -/
def removedFrom (above : Place) : Place :=
  above ++ [removedName]

/-- Whether a place is a directory that has been removed, in which nothing can be made. -/
def isRemoved (place : Place) : Bool :=
  place.getLast? = some removedName

/-- The entry at a place. -/
def node? (tree : Tree) (place : Place) : Option Node :=
  if place = [] ∨ isRemoved place then some .directory
  else (tree.entries.find? fun entry => entry.1 = place).map (·.2)

/-- The path of a place. -/
def Place.path (place : Place) : Path :=
  Path.ofComponents (.root :: place.map Component.name)

/-- The most bytes that one name may have. -/
def nameLimit : Nat := 255

/-- The most bytes that a path may have, the closing null byte included. -/
def pathLimit : Nat := 4096

/-- The most links that one walk follows. -/
def linkLimit : Nat := 40

/-- Walks the parts of a path from a place. `links` is how many more links may be followed, and
`through` tells whether a link at the end is followed as well. -/
def walk (tree : Tree) (through : Bool) :
    (links : Nat) → (here : Place) → (parts : List Text) → Except SystemError Place
  | _, here, [] => .ok here
  | links, here, part :: rest =>
      if tree.node? here ≠ some .directory then .error .notDirectory
      else if part = [] ∨ part = ['.'] then walk tree through links here rest
      else if part = ['.', '.'] then walk tree through links here.dropLast rest
      else if (Text.utf8 part).length > nameLimit then .error .nameTooLong
      else
        match tree.node? (here ++ [part]) with
        | none => .error .notFound
        | some (.link target) =>
            if through || rest ≠ [] then
              match links with
              | 0 => .error .tooManyLinks
              | fewer + 1 =>
                  let start := if target.head? = some '/' then [] else here
                  walk tree through fewer start (Text.segments '/' target ++ rest)
            else .ok (here ++ [part])
        | some _ => walk tree through links (here ++ [part]) rest
termination_by links _ parts => (links, parts.length)

/-- The place of a path, read from a working directory. -/
def resolve (tree : Tree) (working : Place) (through : Bool) (path : Path) :
    Except SystemError Place :=
  if '\x00' ∈ path.text then .error .nullInName
  else if path.text = [] then .error .notFound
  else if (Text.utf8 path.text).length ≥ pathLimit then .error .nameTooLong
  else if path.isAbsolute then
    walk tree through linkLimit [] (Text.segments '/' path.text)
  else walk tree through linkLimit working (Text.segments '/' path.text)

/-- The entry that a path leads to when links are followed. -/
def entry (tree : Tree) (working : Place) (path : Path) : Except SystemError Node :=
  match tree.resolve working true path with
  | .error cause => .error cause
  | .ok place =>
      match tree.node? place with
      | none => .error .notFound
      | some node => .ok node

/-- The directory in which a process finds itself that is started there. -/
def enter (tree : Tree) (working : Place) (path : Path) : Except SystemError Place :=
  match tree.resolve working true path with
  | .error .nullInName => .error .nullInArgument
  | .error cause => .error cause
  | .ok place => if tree.node? place = some .directory then .ok place else .error .notDirectory

/-- The answers that a tree gives to a process with a working directory. -/
def toFileSystem (tree : Tree) (working : Place) : FileSystem where
  read path :=
    match tree.entry working path with
    | .error cause => .error cause
    | .ok (.file content) => .ok content
    | .ok .directory => .error .isDirectory
    | .ok _ => .error .noSuchDevice
  present path :=
    match tree.resolve working false path with
    | .error _ => false
    | .ok _ => true
  opened path :=
    match tree.entry working path with
    | .error cause => .error cause
    | .ok .socket => .error .noSuchDevice
    | .ok _ => .ok ()
  entered path := (tree.enter working path).map Place.path

/-- The most bytes that the name of a socket may have. -/
def socketNameLimit : Nat := 107

/-- Connects to a socket outside the tree, whose name stands behind a null character. Nobody listens
there. -/
def abstractSocket (name : Text) : SystemError :=
  if name = [] then .invalidArgument
  else if (Text.utf8 name).length > socketNameLimit then .abstractNameTooLong
  else .connectionRefused

/-- Connects to a socket by its path. -/
def socket (tree : Tree) (working : Place) (path : Path) : Except SystemError Unit :=
  if path.text.head? = some '\x00' then .error (abstractSocket (path.text.drop 1))
  else if '\x00' ∈ path.text then .error .nullInSocketName
  else if path.text = [] then .error .invalidArgument
  else if (Text.utf8 path.text).length > socketNameLimit then .error .socketNameTooLong
  else
    match tree.entry working path with
    | .error cause => .error cause
    | .ok .socket => .ok ()
    | .ok _ => .error .connectionRefused

/-- Adds a directory at every place on the way that is still free. -/
def withDirectories (tree : Tree) (above : Place) : Place → Tree
  | [] => tree
  | part :: rest =>
      let here := above ++ [part]
      let grown := if (tree.node? here).isSome then tree else ⟨tree.entries ++ [(here, .directory)]⟩
      withDirectories grown here rest

/-- Puts an entry at a place, with the directories that lead there. -/
def put (tree : Tree) (place : Place) (node : Node) : Tree :=
  let ready := withDirectories tree [] place.dropLast
  ⟨ready.entries.filter (fun entry => entry.1 ≠ place) ++ [(place, node)]⟩

/-- Removes the entry at a place and everything below it. -/
def erase (tree : Tree) (place : Place) : Tree :=
  ⟨tree.entries.filter fun entry => !place.isPrefixOf entry.1⟩

/-- A tree in which all names are written in another way. -/
def renamed (rename : Text → Text) (tree : Tree) : Tree :=
  ⟨tree.entries.map fun (place, node) => (place.map rename, match node with
    | .link target => .link (rename target)
    | node => node)⟩

end Tree

end SecureShell.FileSystem
