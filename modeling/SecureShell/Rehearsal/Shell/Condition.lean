/-
Module: SecureShell.Rehearsal.Shell.Condition
Purpose: Conditions of the test command: questions about texts, numbers and files, joined by operators and
  parentheses. What looks like an operator is a text of its own where an operator between two texts stands
  behind it. All parts of a condition are read, also where one of them decides it.
Main exports: FileQuestions, ConditionFault, condition, statusOf
-/
import SecureShell.Rehearsal.Shell.Arithmetic

namespace SecureShell.Rehearsal.Shell

/-- What a condition can ask about a file: whether a question that is named by a letter is answered with
yes, whether two names lead to the same file, and whether the first of two files is the newer one. -/
structure FileQuestions where
  holds : (letter : Char) → (name : Text) → Bool
  same : (first second : Text) → Bool
  newer : (first second : Text) → Bool

/-- What is wrong with a condition. -/
inductive ConditionFault where
  | noNumber (text : Text)
  | missingArgument (operator : Text)
  | unexpected (text : Text)
  | openParenthesis
  | openBracket
deriving DecidableEq, Repr

/-- The wording of what is wrong with a condition. -/
def ConditionFault.message : ConditionFault → Text
  | .noNumber text => "Illegal number: ".toList ++ text
  | .missingArgument operator => operator ++ ": argument expected".toList
  | .unexpected text => text ++ (if text = [] then [] else ": ".toList) ++ "unexpected operator".toList
  | .openParenthesis => "closing paren expected".toList
  | .openBracket => "missing ]".toList

/-- The operators between two texts. -/
def binaryTests : List Text :=
  ["=", "!=", "<", ">", "-eq", "-ne", "-ge", "-gt", "-le", "-lt", "-nt", "-ot", "-ef"].map String.toList

/-- The letters of the questions about one text. -/
def unaryLetters : List Char :=
  ['r', 'w', 'x', 'e', 'f', 'd', 'c', 'b', 'p', 'u', 'g', 'k', 's', 't', 'z', 'n', 'h', 'L', 'O', 'G', 'S']

/-- Whether a text is an operator between two texts. -/
def isBinaryTest (text : Text) : Bool :=
  binaryTests.contains text

/-- Whether the first of some texts is an operand although it looks like a question about a text: nothing
stands behind it, or an operator between two texts does. -/
def isOperand : List Text → Bool
  | [_] => true
  | _ :: second :: _ :: _ => isBinaryTest second
  | _ => false

/-- What the first of some texts means. -/
inductive TestToken where
  | nothing
  | operand
  | unary (letter : Char)
  | binary
  | not
  | and
  | or
  | opening
  | closing
deriving DecidableEq, Repr

/-- What the first of some texts means. -/
def TestToken.of (texts : List Text) : TestToken :=
  match texts with
  | [] => .nothing
  | ['!'] :: _ => .not
  | ['('] :: rest => if rest = [] then .operand else .opening
  | [')'] :: _ => .closing
  | ['-', 'a'] :: _ => .and
  | ['-', 'o'] :: _ => .or
  | ['-', letter] :: _ =>
      if unaryLetters.contains letter && !isOperand texts then .unary letter else .operand
  | text :: _ => if isBinaryTest text then .binary else .operand

/-- A number that is compared. -/
def comparedNumber (text : Text) : Except ConditionFault Int :=
  match Arithmetic.integer? text with
  | some value =>
      if -Arithmetic.greatest - 1 ≤ value ∧ value ≤ Arithmetic.greatest then .ok value
      else .error (.noNumber text)
  | none => .error (.noNumber text)

/-- Applies an operator between two texts; only numbers have a size. -/
def binaryTest (files : FileQuestions) (left operator right : Text) : Except ConditionFault Bool :=
  let compared (relation : Int → Int → Bool) : Except ConditionFault Bool := do
    let first ← comparedNumber left
    let second ← comparedNumber right
    pure (relation first second)
  match String.ofList operator with
  | "=" => .ok (left = right)
  | "!=" => .ok (left ≠ right)
  | "<" => .ok (decide (left < right))
  | ">" => .ok (decide (right < left))
  | "-eq" => compared (· = ·)
  | "-ne" => compared (· ≠ ·)
  | "-ge" => compared (· ≥ ·)
  | "-gt" => compared (· > ·)
  | "-le" => compared (· ≤ ·)
  | "-lt" => compared (· < ·)
  | "-nt" => .ok (files.newer left right)
  | "-ot" => .ok (files.newer right left)
  | _ => .ok (files.same left right)

/-- Answers a question about one text. -/
def unaryTest (files : FileQuestions) (letter : Char) (operand : Text) : Except ConditionFault Bool :=
  if letter = 'n' then .ok (operand ≠ [])
  else if letter = 'z' then .ok (operand = [])
  else if letter = 't' then (comparedNumber operand).map fun _ => false
  else .ok (files.holds letter operand)

mutual

/-- Reads conditions of which one is enough, from a token at the beginning of texts. What is given back begins
with the last text that has been read. `fuel` bounds the steps. -/
def readAnyTest (files : FileQuestions) :
    (fuel : Nat) → TestToken → List Text → Except ConditionFault (Bool × List Text)
  | 0, _, texts => .ok (false, texts)
  | fuel + 1, token, texts => do
      let (first, texts) ← readAllTests files fuel token texts
      if TestToken.of (texts.drop 1) = .or then
        let behind := texts.drop 2
        let (second, texts) ← readAnyTest files fuel (.of behind) behind
        pure (first || second, texts)
      else pure (first, texts)

/-- Reads conditions that all have to hold. -/
def readAllTests (files : FileQuestions) :
    (fuel : Nat) → TestToken → List Text → Except ConditionFault (Bool × List Text)
  | 0, _, texts => .ok (false, texts)
  | fuel + 1, token, texts => do
      let (first, texts) ← readOneTest files fuel token texts
      if TestToken.of (texts.drop 1) = .and then
        let behind := texts.drop 2
        let (second, texts) ← readAllTests files fuel (.of behind) behind
        pure (first && second, texts)
      else pure (first, texts)

/-- Reads one condition. -/
def readOneTest (files : FileQuestions) :
    (fuel : Nat) → TestToken → List Text → Except ConditionFault (Bool × List Text)
  | 0, _, texts => .ok (false, texts)
  | fuel + 1, token, texts =>
      match token, texts with
      | .nothing, _ => .ok (false, texts)
      | _, [] => .ok (false, texts)
      | .not, first :: rest => do
          let (holds, texts) ←
            readOneTest files fuel (.of rest) (if rest = [] then [first] else rest)
          pure (!holds, texts)
      | .opening, _ :: rest =>
          if TestToken.of rest = .closing then .ok (false, rest)
          else do
            let (holds, texts) ← readAnyTest files fuel (.of rest) rest
            if TestToken.of (texts.drop 1) = .closing then pure (holds, texts.drop 1)
            else throw .openParenthesis
      | .unary letter, operator :: rest =>
          match rest with
          | [] => throw (.missingArgument operator)
          | operand :: _ => (unaryTest files letter operand).map fun holds => (holds, rest)
      | _, left :: rest =>
          match TestToken.of rest, rest with
          | .binary, operator :: behind =>
              match behind with
              | [] => throw (.missingArgument operator)
              | right :: _ => (binaryTest files left operator right).map fun holds => (holds, behind)
          | _, _ => .ok (left ≠ [], left :: rest)

end

/-- The truth of a condition from a token on, unless texts are left behind it. -/
def wholeTest (files : FileQuestions) (token : TestToken) (texts : List Text) : Except ConditionFault Bool := do
  match ← readAnyTest files (4 * texts.length + 8) token texts with
  | (_, last :: _ :: _) => throw (.unexpected last)
  | (holds, _) => pure holds

/-- The truth of a condition. Three texts with an operator in the middle are always a comparison, and the first
of three or four may turn the others around. `fuel` bounds how often this happens. -/
def conditionFrom (files : FileQuestions) : (fuel : Nat) → (negated : Bool) → List Text →
    Except ConditionFault Bool
  | 0, _, _ => .ok false
  | _, _, [] => .ok false
  | fuel + 1, negated, texts => do
      let whole (token : TestToken) (texts : List Text) : Except ConditionFault Bool := do
        pure ((← wholeTest files token texts) != negated)
      if texts.length = 3 ∧ ((texts.drop 1).head?.map isBinaryTest) = some true then whole .operand texts
      else if texts.length = 3 ∨ texts.length = 4 then
        if texts.head? = some ['('] ∧ texts.getLast? = some [')'] then
          let inside := (texts.drop 1).dropLast
          whole (.of inside) inside
        else if texts.head? = some ['!'] then conditionFrom files fuel true (texts.drop 1)
        else whole (.of texts) texts
      else whole (.of texts) texts

/-- The truth of a condition. -/
def condition (files : FileQuestions) (texts : List Text) : Except ConditionFault Bool :=
  conditionFrom files (texts.length + 1) false texts

/-- The status that a truth value stands for. -/
def statusOf : Bool → Nat
  | true => 0
  | false => 1

/-- The texts between the brackets, if the closing one is there. -/
def withoutBracket (texts : List Text) : Except ConditionFault (List Text) :=
  if texts.getLast? = some [']'] then .ok texts.dropLast else .error .openBracket

end SecureShell.Rehearsal.Shell
