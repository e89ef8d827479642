/-
Module: SecureShell.Path.Basic
Purpose: File paths as written texts with the components they stand for. A slash separates components;
  an empty part and a single dot stand for nothing, except that a dot at the very beginning of a relative
  path is a component of its own. Two paths are the same place in writing when their components agree.
Main exports: Path, Component, Path.components, Path.join, Path.parent?, Path.SameComponents
-/
import SecureShell.Text.Decimal

namespace SecureShell

/-- A path as it is written. -/
structure Path where
  text : Text
deriving DecidableEq, Repr, Inhabited

/-- One step of a path. -/
inductive Component where
  | root
  | current
  | up
  | name (text : Text)
deriving DecidableEq, Repr

namespace Component

/-- What a part between two slashes stands for. -/
def ofSegment (segment : Text) : Option Component :=
  if segment = [] then none
  else if segment = ['.'] then none
  else if segment = ['.', '.'] then some .up
  else some (.name segment)

/-- The written form of a component; the root is written by the slash in front of what follows. -/
def text : Component → Text
  | .root => []
  | .current => ['.']
  | .up => ['.', '.']
  | .name written => written

end Component

namespace Path

/-- A path that begins at the root. -/
def isAbsolute (path : Path) : Bool :=
  path.text.head? == some '/'

/-- The steps of a path in order. -/
def components (path : Path) : List Component :=
  match path.text with
  | '/' :: rest => .root :: (Text.segments '/' rest).filterMap Component.ofSegment
  | written =>
      match Text.segments '/' written with
      | [] => []
      | first :: rest =>
          (if first = ['.'] then [.current] else (Component.ofSegment first).toList)
            ++ rest.filterMap Component.ofSegment

/-- Two paths with the same steps. -/
def SameComponents (left right : Path) : Prop :=
  left.components = right.components

instance (left right : Path) : Decidable (SameComponents left right) :=
  inferInstanceAs (Decidable (left.components = right.components))

/-- The path that steps are written as. -/
def ofComponents : List Component → Path
  | .root :: rest => ⟨'/' :: List.intercalate ['/'] (rest.map Component.text)⟩
  | steps => ⟨List.intercalate ['/'] (steps.map Component.text)⟩

/-- A path read from another one: an absolute path stands alone, any other is written after the base. -/
def join (base : Path) (written : Text) : Path :=
  if written.head? = some '/' then ⟨written⟩
  else if base.text = [] then ⟨written⟩
  else if base.text.getLast? = some '/' then ⟨base.text ++ written⟩
  else ⟨base.text ++ '/' :: written⟩

/-- A part that stands for nothing. -/
def isEmptyPart (segment : Text) : Bool :=
  segment = [] || segment = ['.']

/-- Parts without those at the end that stand for nothing. -/
def withoutEmptyEnd : List Text → List Text
  | [] => []
  | part :: rest =>
      match withoutEmptyEnd rest with
      | [] => if isEmptyPart part then [] else [part]
      | kept => part :: kept

/-- The path without its last step, written as it was; a path without steps and the root have none. -/
def parent? (path : Path) : Option Path :=
  match path.text with
  | [] => none
  | '/' :: rest =>
      match withoutEmptyEnd (Text.segments '/' rest) with
      | [] => none
      | parts => some ⟨'/' :: List.intercalate ['/'] (withoutEmptyEnd parts.dropLast)⟩
  | written =>
      match Text.segments '/' written with
      | [] => none
      | first :: rest =>
          match withoutEmptyEnd rest with
          | [] => some ⟨[]⟩
          | parts => some ⟨List.intercalate ['/'] (first :: withoutEmptyEnd parts.dropLast)⟩

example : (Path.mk "/a//b/./c/".toList).parent? = some ⟨"/a//b".toList⟩ := by decide
example : (Path.mk "./c".toList).parent? = some ⟨".".toList⟩ := by decide
example : (Path.mk "c".toList).parent? = some ⟨[]⟩ := by decide
example : (Path.mk "/".toList).parent? = none := by decide
example : SameComponents ⟨"/a/./b/".toList⟩ ⟨"//a/b".toList⟩ := by decide

end Path

end SecureShell
