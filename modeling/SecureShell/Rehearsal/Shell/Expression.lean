/-
Module: SecureShell.Rehearsal.Shell.Expression
Purpose: Regular expressions, which stand for parts of a line. Of the parts that an expression stands for, the
  first one counts, and of those at one place the longest; of several ways to the same end the one counts that
  takes the first of two choices and repeats as often as it can.
Main exports: Expression, Spot, Occurrence, Expression.ends, Expression.search
-/
import SecureShell.Rehearsal.Shell.Pattern

namespace SecureShell.Rehearsal.Shell

/-- A condition for a place between two characters. -/
inductive Anchor where
  | start
  | finish
  | textStart
  | textFinish
  | wordStart
  | wordEnd
  | wordEdge
  | noWordEdge
deriving DecidableEq, Repr

/-- A regular expression. Groups have numbers by which what they stand for is meant again. -/
inductive Expression where
  | empty
  | one (negated : Bool) (sets : List CharSet)
  | at (anchor : Anchor)
  | group (number : Nat) (body : Expression)
  | again (number : Nat)
  | both (first second : Expression)
  | either (first second : Expression)
  | repeated (least : Nat) (most : Option Nat) (body : Expression)
deriving DecidableEq, Repr

/-- A place in a line: the character before it unless the line begins there, what follows and how much that is,
and the texts of the groups so far. -/
structure Spot where
  before : Option Char
  rest : Text
  left : Nat
  groups : List (Nat × Text)
deriving DecidableEq, Repr

namespace Spot

/-- The place before a text, behind a character if there is one. -/
def start (before : Option Char) (text : Text) : Spot :=
  ⟨before, text, text.length, []⟩

/-- The place behind some characters. -/
def past (spot : Spot) (count : Nat) : Spot :=
  match count with
  | 0 => spot
  | count + 1 =>
      { spot with
        before := (spot.rest.drop count).head?.or spot.before
        rest := spot.rest.drop (count + 1)
        left := spot.left - (count + 1) }

/-- The text of a group. -/
def group (spot : Spot) (number : Nat) : Text :=
  (spot.groups.lookup number).getD []

/-- Keeps the text up to a later place as that of a group. -/
def closing (spot : Spot) (number : Nat) (later : Spot) : Spot :=
  { later with groups := (number, spot.rest.take (spot.left - later.left)) :: later.groups }

end Spot

/-- A part of a line with what stands before and behind it, and the texts of its groups. -/
structure Occurrence where
  before : Text
  part : Text
  groups : List (Nat × Text)
  behind : Text
deriving DecidableEq, Repr

/-- Whether a character belongs to a word. -/
def isWordChar (c : Char) : Bool :=
  c.isAlphanum || c = '_'

/-- Whether a condition holds for the place between two characters, of which none may be there. A text may count
as several lines. -/
def Anchor.holds (inLines : Bool) (anchor : Anchor) (before next : Option Char) : Bool :=
  let isEdge (c : Option Char) : Bool := c.isNone || (inLines && c = some '\n')
  let isBehind := before.any isWordChar
  let isAhead := next.any isWordChar
  match anchor with
  | .start => isEdge before
  | .finish => isEdge next
  | .textStart => before.isNone
  | .textFinish => next.isNone
  | .wordStart => !isBehind && isAhead
  | .wordEnd => isBehind && !isAhead
  | .wordEdge => isBehind != isAhead
  | .noWordEdge => isBehind == isAhead

namespace Expression

/-- Whether a character is one of those that sets in brackets hold, perhaps in the other case. -/
def admits (folds negated : Bool) (sets : List CharSet) (c : Char) : Bool :=
  (sets.any fun set =>
    set.contains c || (folds && (set.contains c.toLower || set.contains c.toUpper))) != negated

/-- How texts are compared with an expression: whether case does not matter, whether the texts of groups do, and
whether a text counts as several lines. -/
structure Comparison where
  folds : Bool
  minds : Bool
  inLines : Bool
deriving DecidableEq, Repr

/-- Whether two places are the same as far as it matters for what follows. -/
def Comparison.same (comparison : Comparison) (first second : Spot) : Bool :=
  first.left = second.left && (!comparison.minds || first.groups = second.groups)

/-- The places without those that have come before. -/
def Comparison.distinct (comparison : Comparison) (spots : List Spot) : List Spot :=
  spots.foldl (fun found spot => if found.any (comparison.same spot) then found else spot :: found) [] |>.reverse

/-- The places that are reached by steps from a place, each of which leads on: those behind more steps first.
`found` are those that have been reached before, the last one first. `fuel` bounds the steps. -/
def spread (comparison : Comparison) (step : Spot → List Spot) : (fuel : Nat) → (found : List Spot) → Spot →
    List Spot
  | 0, found, _ => found
  | fuel + 1, found, spot =>
      if found.any (comparison.same spot) then found
      else
        let behind := (step spot).foldl (fun found next =>
          if next.left < spot.left then spread comparison step fuel found next else found) found
        spot :: behind

/-- The places that are reached by at most a number of steps, those behind more steps first. -/
def spreadUpTo (comparison : Comparison) (step : Spot → List Spot) : (most : Nat) → Spot → List Spot
  | 0, spot => [spot]
  | most + 1, spot =>
      let behind := (step spot).flatMap fun next =>
        if next.left < spot.left then spreadUpTo comparison step most next else []
      comparison.distinct (behind ++ [spot])

/-- The places that are reached by exactly a number of steps. -/
def stepped (comparison : Comparison) (step : Spot → List Spot) : (count : Nat) → List Spot → List Spot
  | 0, spots => spots
  | count + 1, spots => stepped comparison step count (comparison.distinct (spots.flatMap step))

/-- The places behind a number of characters between bounds, the last one first. -/
def pastSome (spot : Spot) (least : Nat) (admitted : Nat) : List Spot :=
  if admitted < least then []
  else ((List.range (admitted - least + 1)).map fun index => spot.past (least + index)).reverse

/-- The places that are reached by a repeated step, those behind more steps first. -/
def repeatedEnds (comparison : Comparison) (step : Spot → List Spot) (least : Nat) (most : Option Nat)
    (spot : Spot) : List Spot :=
  let begun := stepped comparison step least [spot]
  comparison.distinct (begun.flatMap fun spot => match most with
    | some most => spreadUpTo comparison step (most - least) spot
    | none => (spread comparison step (spot.left + 1) [] spot).reverse)

/-- The places up to which an expression stands for a part of a line from a place on. Of the ways to an end the
one that counts comes first. -/
def ends (comparison : Comparison) : Expression → Spot → List Spot
  | .empty, spot => [spot]
  | .one negated sets, spot =>
      match spot.rest with
      | c :: _ => if admits comparison.folds negated sets c then [spot.past 1] else []
      | [] => []
  | .at anchor, spot => if anchor.holds comparison.inLines spot.before spot.rest.head? then [spot] else []
  | .group number body, spot => (ends comparison body spot).map (spot.closing number)
  | .again number, spot =>
      let text := spot.group number
      let fits := if comparison.folds
        then (text.map Char.toLower).isPrefixOf (spot.rest.map Char.toLower) else text.isPrefixOf spot.rest
      if fits then [spot.past text.length] else []
  | .both first second, spot =>
      comparison.distinct ((ends comparison first spot).flatMap fun later => ends comparison second later)
  | .either first second, spot => comparison.distinct (ends comparison first spot ++ ends comparison second spot)
  | .repeated least most (.one negated sets), spot =>
      let run := (spot.rest.takeWhile (admits comparison.folds negated sets)).length
      pastSome spot least (most.elim run (min run))
  | .repeated least most body, spot => repeatedEnds comparison (ends comparison body) least most spot

/-- Whether an expression means a group again. -/
def hasAgain : Expression → Bool
  | .again _ => true
  | .group _ body => hasAgain body
  | .both first second => hasAgain first || hasAgain second
  | .either first second => hasAgain first || hasAgain second
  | .repeated _ _ body => hasAgain body
  | _ => false

/-- How many groups an expression has. -/
def groupCount : Expression → Nat
  | .group _ body => groupCount body + 1
  | .both first second => groupCount first + groupCount second
  | .either first second => groupCount first + groupCount second
  | .repeated _ _ body => groupCount body
  | _ => 0

/-- The one of some places that is the furthest; of those at the same place the first. -/
def furthest (spots : List Spot) : Option Spot :=
  spots.foldl (fun best spot => match best with
    | some best => if spot.left < best.left then some spot else some best
    | none => some spot) none

/-- The longest part at a place that an expression stands for and that counts; whether it does is known by the
places where it begins and ends. `passed` is what has been passed so far, the last character first. -/
def partAt (comparison : Comparison) (expression : Expression) (counts : Spot → Spot → Bool)
    (before : Option Char) (passed text : Text) : Option Occurrence :=
  let spot := Spot.start before text
  (furthest ((ends comparison expression spot).filter (counts spot))).map fun found =>
    ⟨passed.reverse, text.take (spot.left - found.left), found.groups, found.rest⟩

/-- The first part of the text behind a place that an expression stands for and that counts, and of those the
longest. -/
def searchFrom (comparison : Comparison) (expression : Expression) (counts : Spot → Spot → Bool)
    (before : Option Char) (passed : Text) : (text : Text) → Option Occurrence
  | [] => partAt comparison expression counts before passed []
  | c :: rest =>
      match partAt comparison expression counts before passed (c :: rest) with
      | some found => some found
      | none => searchFrom comparison expression counts (some c) (c :: passed) rest

/-- The first part of a text behind a character, or at the beginning of a line, that an expression stands for. -/
def searchBehind (expression : Expression) (folds : Bool) (before : Option Char) (text : Text) :
    Option Occurrence :=
  searchFrom ⟨folds, expression.hasAgain, false⟩ expression (fun _ _ => true) before [] text

/-- The first part of a line that an expression stands for. -/
def search (expression : Expression) (folds : Bool) (line : Text) : Option Occurrence :=
  expression.searchBehind folds none line

/-- The part at the beginning of a line that an expression stands for. -/
def atStart (expression : Expression) (line : Text) : Option Occurrence :=
  partAt ⟨false, expression.hasAgain, false⟩ expression (fun _ _ => true) none [] line

/-- An expression for a text that means itself. -/
def ofText (text : Text) : Expression :=
  text.foldr (fun c rest => .both (.one false [.range c c]) rest) .empty

end Expression

end SecureShell.Rehearsal.Shell
