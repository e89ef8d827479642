/-
Module: SecureShell.Rehearsal.Shell.Pattern
Purpose: Patterns of the shell. An asterisk stands for any text, a question mark for any character and a
  list in brackets for one of its characters; what is quoted stands for itself.
Main exports: Cell, Pattern, Pattern.ofCells, Pattern.matches, Pattern.isActive
-/
import SecureShell.Rehearsal.Shell.Script

namespace SecureShell.Rehearsal.Shell

/-- A character of a word that has been filled in, and whether it was quoted. -/
structure Cell where
  char : Char
  quoted : Bool
deriving DecidableEq, Repr

/-- The characters of cells. -/
def Cell.text (cells : List Cell) : Text :=
  cells.map Cell.char

/-- A set of characters in a list in brackets. -/
inductive CharSet where
  | range (first last : Char)
  | named (name : Text)
deriving DecidableEq, Repr

/-- Whether a punctuation mark of ASCII. -/
def isPunctuation (c : Char) : Bool :=
  0x20 < c.toNat && c.toNat < 0x7f && !c.isAlphanum

/-- Whether a character belongs to a set. -/
def CharSet.contains (set : CharSet) (c : Char) : Bool :=
  match set with
  | range first last => first ≤ c && c ≤ last
  | named name =>
      if name = "alpha".toList then c.isAlpha
      else if name = "digit".toList then c.isDigit
      else if name = "alnum".toList then c.isAlphanum
      else if name = "upper".toList then c.isUpper
      else if name = "lower".toList then c.isLower
      else if name = "blank".toList then c = ' ' || c = '\t'
      else if name = "space".toList then c = ' ' || (9 ≤ c.toNat && c.toNat ≤ 13)
      else if name = "punct".toList then isPunctuation c
      else if name = "print".toList then 0x20 ≤ c.toNat && c.toNat < 0x7f
      else if name = "graph".toList then 0x20 < c.toNat && c.toNat < 0x7f
      else if name = "cntrl".toList then c.toNat < 0x20 || c.toNat = 0x7f
      else if name = "xdigit".toList then
        c.isDigit || ('a' ≤ c && c ≤ 'f') || ('A' ≤ c && c ≤ 'F')
      else false

/-- A part of a pattern. -/
inductive PatternPart where
  | one (c : Char)
  | anyOne
  | anyText
  | oneOf (negated : Bool) (sets : List CharSet)
deriving DecidableEq, Repr

/-- A pattern. -/
abbrev Pattern := List PatternPart

namespace Pattern

/-- Whether a cell is a certain character with its special meaning. -/
def isActive (c : Char) (cell : Cell) : Bool :=
  cell.char = c && !cell.quoted

/-- The name of a class of characters up to the colon and the bracket behind it. -/
def cutClass : List Cell → Option (Text × List Cell)
  | ⟨':', false⟩ :: ⟨']', false⟩ :: rest => some ([], rest)
  | ⟨c, _⟩ :: rest =>
      if c.isAlpha then (cutClass rest).map fun cut => (c :: cut.1, cut.2) else none
  | [] => none

/-- Reads the sets of a list up to the closing bracket, which means itself if it comes first. `fuel`
bounds the steps. -/
def readSets : (fuel : Nat) → (isFirst : Bool) → List Cell → Option (List CharSet × List Cell)
  | 0, _, _ => none
  | _, _, [] => none
  | fuel + 1, isFirst, cell :: rest =>
      if isActive ']' cell ∧ isFirst = false then some ([], rest)
      else
        let single : Option (List CharSet × List Cell) :=
          match rest with
          | dash :: last :: behind =>
              if isActive '-' dash ∧ isActive ']' last = false then
                (readSets fuel false behind).map fun (sets, rest) =>
                  (.range cell.char last.char :: sets, rest)
              else (readSets fuel false rest).map fun (sets, rest) =>
                (.range cell.char cell.char :: sets, rest)
          | rest => (readSets fuel false rest).map fun (sets, rest) =>
              (.range cell.char cell.char :: sets, rest)
        match rest with
        | ⟨':', false⟩ :: behind =>
            if isActive '[' cell then
              match cutClass behind with
              | some (name, behind) =>
                  (readSets fuel false behind).map fun (sets, rest) => (.named name :: sets, rest)
              | none => single
            else single
        | _ => single

/-- Reads a pattern. A bracket that is not closed stands for itself. `fuel` bounds the steps. -/
def read : (fuel : Nat) → List Cell → Pattern
  | 0, _ => []
  | _, [] => []
  | fuel + 1, cell :: rest =>
      if isActive '*' cell then .anyText :: read fuel rest
      else if isActive '?' cell then .anyOne :: read fuel rest
      else if isActive '[' cell then
        let negated := rest.head?.any (isActive '!')
        match readSets (rest.length + 1) true (if negated then rest.drop 1 else rest) with
        | some (sets, behind) => .oneOf negated sets :: read fuel behind
        | none => .one '[' :: read fuel rest
      else .one cell.char :: read fuel rest

/-- Cells in which a backslash that has been filled in protects the cell behind it. -/
def protect : List Cell → List Cell
  | [] => []
  | [last] => [last]
  | first :: next :: rest =>
      if isActive '\\' first then ⟨next.char, true⟩ :: protect rest
      else first :: protect (next :: rest)

/-- The pattern that cells stand for. -/
def ofCells (cells : List Cell) : Pattern :=
  read (cells.length + 1) (protect cells)

/-- For each end of a text, the longest first, whether the rest of a pattern stands for it, where it is known
for which ends what is behind an asterisk stands. -/
def anyEnds : List Bool → List Bool
  | [] => []
  | here :: rest =>
      let ends := anyEnds rest
      (here || ends.headD false) :: ends

/-- For each end of a text, the longest first, whether a condition holds for its first character and what is
known about the end behind that. -/
def stepEnds (condition : Char → Bool) : Text → List Bool → List Bool
  | c :: text, _ :: rest => (condition c && rest.headD false) :: stepEnds condition text rest
  | _, _ => [false]

/-- For each end of a text, the longest first, whether a pattern stands for it. -/
def ends (pattern : Pattern) (text : Text) : List Bool :=
  match pattern with
  | [] => text.map (fun _ => false) ++ [true]
  | part :: rest =>
      let behind := ends rest text
      match part with
      | .anyText => anyEnds behind
      | .anyOne => stepEnds (fun _ => true) text behind
      | .one c => stepEnds (· = c) text behind
      | .oneOf negated sets => stepEnds (fun d => sets.any (·.contains d) != negated) text behind

/-- Whether a text is one of those that a pattern stands for. -/
def «matches» (pattern : Pattern) (text : Text) : Bool :=
  (ends pattern text).headD false

/-- Whether a pattern stands for more than one text. -/
def isOpen (pattern : Pattern) : Bool :=
  pattern.any fun part => match part with
    | .one _ => false
    | _ => true

/-- The places, counted from the front, of what is possible. -/
def places (possible : List Bool) : List Nat :=
  (possible.zipIdx.filter (·.1)).map (·.2)

/-- The pattern for the texts that are spelled from their ends. -/
def backwards (pattern : Pattern) : Pattern :=
  pattern.reverse

/-- A text without what a pattern stands for at one of its ends, the longest or the shortest such part; a
text without such a part stays. -/
def trim (pattern : Pattern) (atEnd longest : Bool) (text : Text) : Text :=
  if atEnd then
    let found := places (pattern.ends text)
    match if longest then found.head? else found.getLast? with
    | some kept => text.take kept
    | none => text
  else
    let found := places (pattern.backwards.ends text.reverse)
    match if longest then found.head? else found.getLast? with
    | some kept => text.drop (text.length - kept)
    | none => text

example : trim [.anyText, .one '.'] false false "a.b.c".toList = "b.c".toList := by decide
example : trim [.anyText, .one '.'] false true "a.b.c".toList = "c".toList := by decide
example : trim [.one '.', .anyText] true false "a.b.c".toList = "a.b".toList := by decide
example : trim [.one '.', .anyText] true true "a.b.c".toList = "a".toList := by decide

end Pattern

end SecureShell.Rehearsal.Shell
