/-
Module: SecureShell.Rehearsal.Shell.Calculation
Purpose: The program that computes what its arguments say: each number, text, operator and bracket is an
  argument of its own. Two texts are compared as numbers if both are numbers. The main statements say that
  `|` has the first value that is not null, and that `&` has one only if neither is.
Main exports: Calculation.value?, Calculation.isNull
-/
import SecureShell.Rehearsal.Shell.Arithmetic
import SecureShell.Rehearsal.Shell.ExpressionSigns

namespace SecureShell.Rehearsal.Shell.Calculation

open Arithmetic (Operator operatorOf?)

/-- Whether a value counts as nothing: it is empty, or written with zeros alone. -/
def isNull (value : Text) : Bool :=
  match value with
  | [] => true
  | '-' :: digits => digits ≠ [] && digits.all (· = '0')
  | digits => digits.all (· = '0')

/-- The number that a text is: digits, and a minus sign at most in front of them. -/
def integer? (text : Text) : Option Int :=
  let digits := if text.head? = some '-' then text.drop 1 else text
  if digits = [] ∨ digits.any (fun c => !c.isDigit) then none
  else
    let value : Int := Nat.ofDigitChars 10 digits 0
    some (if text.head? = some '-' then -value else value)

/-- What a text has that an expression describes from its start on: the part in the group if there is a
group, and else the number of characters. -/
def matched? (text pattern : Text) : Option Text := do
  let expression ← (Expression.read .basic pattern).toOption
  match expression.atStart text, decide (0 < expression.groupCount) with
  | some found, true => some ((found.groups.lookup 1).getD [])
  | some found, false => some (Text.decimal found.part.length)
  | none, true => some []
  | none, false => some ['0']

/-- The place from which a text has one of some characters, counted from one; zero if it has none. -/
def indexOf (text characters : Text) : Nat :=
  match text.findIdx? fun c => characters.contains c with
  | some index => index + 1
  | none => 0

/-- The part of a text that starts at a position, counted from one, and has a length. -/
def partOf (text first length : Text) : Text :=
  match integer? first, integer? length with
  | some first, some length =>
      if first ≤ 0 ∨ length ≤ 0 then [] else (text.drop (first.toNat - 1)).take length.toNat
  | _, _ => []

/-- How two texts compare. -/
def compared (operator : Operator) (left right : Text) : Bool :=
  match operator with
  | .less => decide (left < right)
  | .atMost => !decide (right < left)
  | .greater => decide (right < left)
  | .atLeast => !decide (left < right)
  | .equal => decide (left = right)
  | _ => decide (left ≠ right)

/-- A way of joining two values. -/
inductive Joint where
  | either
  | both
  | comparison (operator : Operator)
  | computation (operator : Operator)
  | description
deriving Repr, DecidableEq

/-- The joint of two values; a computation needs numbers. -/
def Joint.join? (joint : Joint) (left right : Text) : Option Text :=
  match joint with
  | either => some (if !isNull left then left else if !isNull right then right else ['0'])
  | both => some (if isNull left || isNull right then ['0'] else left)
  | comparison operator =>
      match integer? left, integer? right with
      | some left, some right => Option.map Arithmetic.written <| Operator.apply? operator left right
      | _, _ => some (if compared operator left right then ['1'] else ['0'])
  | computation operator => do
      let value ← Operator.apply? operator (← integer? left) (← integer? right)
      some (Arithmetic.written value)
  | description => matched? left right

/-- The joints by rank, those that bind weakest first. -/
def ranks : List (List (String × Joint)) :=
  [ [("|", .either)],
    [("&", .both)],
    [ ("<", .comparison .less), ("<=", .comparison .atMost), ("=", .comparison .equal),
      ("==", .comparison .equal), ("!=", .comparison .unequal), (">=", .comparison .atLeast),
      (">", .comparison .greater) ],
    [("+", .computation .plus), ("-", .computation .minus)],
    [("*", .computation .times), ("/", .computation .dividedBy), ("%", .computation .modulo)],
    [(":", .description)] ]

/-- The joint of a rank that a word stands for. -/
def jointOf? (rank : List (String × Joint)) (word : Text) : Option Joint :=
  rank.lookup (String.ofList word)

/-- Reads values behind one another and keeps what is left. -/
def many? (value? : List Text → Option (Text × List Text)) :
    Nat → List Text → Option (List Text × List Text)
  | 0, words => some ([], words)
  | count + 1, words => do
      let (first, words) ← value? words
      let (others, words) ← many? value? count words
      some (first :: others, words)

/-- The functions of texts, with the number of their arguments. -/
def functions : List (String × Nat × (List Text → Option Text)) :=
  [ ("length", 1, fun values => values.head?.map fun text => Text.decimal text.length),
    ("match", 2, fun values => matched? (values.getD 0 []) (values.getD 1 [])),
    ("index", 2, fun values => some (Text.decimal (indexOf (values.getD 0 []) (values.getD 1 [])))),
    ("substr", 3, fun values =>
      some (partOf (values.getD 0 []) (values.getD 1 []) (values.getD 2 []))) ]

mutual

/-- A value that has no joint outside brackets, and what is left. -/
def single? : Nat → List Text → Option (Text × List Text)
  | 0, _ => none
  | _, [] => none
  | fuel + 1, word :: words =>
      if word = ['+'] then words.head?.map fun text => (text, words.drop 1)
      else if word = ['('] then do
        let (value, rest) ← ranked? fuel ranks words
        if rest.head? = some [')'] then some (value, rest.drop 1) else none
      else if word = [')'] then none
      else
        match functions.lookup (String.ofList word) with
        | some (count, function) => do
            let (values, rest) ← many? (single? fuel) count words
            some ((← function values), rest)
        | none => some (word, words)

/-- A value with joints of some ranks, and what is left. -/
def ranked? : Nat → List (List (String × Joint)) → List Text → Option (Text × List Text)
  | 0, _, _ => none
  | fuel + 1, [], words => single? fuel words
  | fuel + 1, rank :: stronger, words => do
      let (left, rest) ← ranked? fuel stronger words
      joined? fuel rank stronger left rest

/-- A value joined with those behind it, from left to right. -/
def joined? : Nat → List (String × Joint) → List (List (String × Joint)) → Text → List Text →
    Option (Text × List Text)
  | 0, _, _, _, _ => none
  | _, _, _, left, [] => some (left, [])
  | fuel + 1, rank, stronger, left, word :: words =>
      match jointOf? rank word with
      | none => some (left, word :: words)
      | some joint => do
          let (right, rest) ← ranked? fuel stronger words
          joined? fuel rank stronger (← joint.join? left right) rest

end

/-- The value of all arguments; there has to be one. -/
def value? (words : List Text) : Option Text :=
  match ranked? (10 * words.length + 10) ranks words with
  | some (value, []) => some value
  | _ => none

/-- What is joined by `|` is the first value unless that is null. -/
theorem join?_either {left right : Text} (h : isNull left = false) :
    Joint.either.join? left right = some left := by
  simp [Joint.join?, h]

/-- What is joined by `&` is null as soon as one of them is. -/
theorem join?_both {left right : Text} (h : isNull left = true ∨ isNull right = true) :
    Joint.both.join? left right = some ['0'] := by
  rcases h with h | h <;> simp [Joint.join?, h]

end SecureShell.Rehearsal.Shell.Calculation
