/-
Module: SecureShell.Rehearsal.Shell.Arithmetic
Purpose: Arithmetic expressions of the shell: whole numbers of sixty-four bits with the operators of their
  ranks, conditions that look at one side only when they have to, and parameters that may be assigned.
  Division cuts off towards zero, and a number may be written in base ten, eight or sixteen.
Main exports: Arithmetic.Expression, Arithmetic.Expression.ofText?, Arithmetic.Expression.value?,
  Arithmetic.integer?, Arithmetic.written
-/
import SecureShell.Rehearsal.Shell.Script
import SecureShell.Text.Decimal

namespace SecureShell.Rehearsal.Shell.Arithmetic

/-- A power of two. -/
def powerOfTwo (exponent : Nat) : Nat :=
  1 <<< exponent

/-- How many numbers there are: as many as sixty-four bits can tell apart. -/
def range : Nat := powerOfTwo 64

/-- A number brought into the range of sixty-four bits. -/
def wrapped (value : Int) : Int :=
  Int.bmod value range

/-- The greatest number. -/
def greatest : Int := powerOfTwo 63 - 1

/-- The value of a digit in bases up to sixteen. -/
def digit? (base : Nat) (c : Char) : Option Nat :=
  let value :=
    if c.isDigit then c.toNat - '0'.toNat
    else if 'a' ≤ c ∧ c ≤ 'f' then c.toNat - 'a'.toNat + 10
    else if 'A' ≤ c ∧ c ≤ 'F' then c.toNat - 'A'.toNat + 10
    else base
  if value < base then some value else none

/-- The value of the digits in front, and the text behind them. -/
def readDigits (base : Nat) (value : Nat) : Text → Nat × Text
  | [] => (value, [])
  | c :: rest =>
      match digit? base c with
      | some digit => readDigits base (value * base + digit) rest
      | none => (value, c :: rest)

/-- The number in front, whose base its first characters tell, and the text behind it. -/
def readNumber (text : Text) : Nat × Text :=
  match text with
  | '0' :: mark :: c :: rest =>
      if (mark = 'x' ∨ mark = 'X') ∧ (digit? 16 c).isSome then readDigits 16 0 (c :: rest)
      else readDigits 8 0 (mark :: c :: rest)
  | '0' :: rest => readDigits 8 0 rest
  | text => readDigits 10 0 text

/-- The digits of base ten in front, and the text behind them. -/
def readDecimal (text : Text) : Nat × Text :=
  readDigits 10 0 text

/-- Whether a character is passed over between numbers. -/
def isSpace (c : Char) : Bool :=
  c = ' ' || (9 ≤ c.toNat && c.toNat ≤ 13)

/-- The number that a whole text stands for, with an optional sign and blanks around it. -/
def signed? (read : Text → Nat × Text) (text : Text) : Option Int :=
  let text := text.dropWhile isSpace
  let isNegative := text.head? = some '-'
  let digits := if isNegative ∨ text.head? = some '+' then text.drop 1 else text
  match digits with
  | [] => none
  | c :: _ =>
      let (value, rest) := read digits
      if c.isDigit ∧ rest.all isSpace = true then
        some (if isNegative then -(value : Int) else value)
      else none

/-- The number in base ten that a whole text stands for. -/
def integer? (text : Text) : Option Int :=
  signed? readDecimal text

/-- The value of the text of a parameter; a blank one counts as nothing. -/
def parameterValue? (text : Text) : Option Int :=
  if text.all isSpace then some 0
  else (signed? readNumber text).filter fun value => -greatest - 1 ≤ value ∧ value ≤ greatest

/-- The written form of a whole number. -/
def written (value : Int) : Text :=
  if value < 0 then '-' :: Text.decimal value.natAbs else Text.decimal value.natAbs

/-- Operators between two numbers. -/
inductive Operator where
  | times | dividedBy | modulo | plus | minus | shiftLeft | shiftRight
  | less | atMost | greater | atLeast | equal | unequal | bitAnd | bitXor | bitOr
deriving DecidableEq, Repr

/-- Operators in front of a number. -/
inductive Sign where
  | positive | negative | complement | opposite
deriving DecidableEq, Repr

/-- An expression. An assignment may join the old value with the new one by an operator. -/
inductive Expression where
  | number (value : Int)
  | parameter (name : Text)
  | signed (sign : Sign) (operand : Expression)
  | binary (operator : Operator) (left right : Expression)
  | both (left right : Expression)
  | either (left right : Expression)
  | choice (condition yes no : Expression)
  | assign (name : Text) (operator : Option Operator) (value : Expression)
deriving Repr

/-- How a truth value is written as a number. -/
def truth (holds : Bool) : Int :=
  if holds then 1 else 0

/-- Applies an operation on bits to two numbers. -/
def onBits (operation : Nat → Nat → Nat) (left right : Int) : Int :=
  wrapped (operation (left % range).toNat (right % range).toNat)

/-- How far a number is shifted. -/
def shiftAmount (value : Int) : Nat :=
  (value % 64).toNat

/-- Applies an operator; nothing can be divided by zero. -/
def Operator.apply? (operator : Operator) (left right : Int) : Option Int :=
  match operator with
  | times => some (wrapped (left * right))
  | dividedBy => if right = 0 then none else some (wrapped (Int.tdiv left right))
  | modulo => if right = 0 then none else some (wrapped (Int.tmod left right))
  | plus => some (wrapped (left + right))
  | minus => some (wrapped (left - right))
  | shiftLeft => some (wrapped (left * powerOfTwo (shiftAmount right)))
  | shiftRight => some (Int.fdiv left (powerOfTwo (shiftAmount right)))
  | less => some (truth (left < right))
  | atMost => some (truth (left ≤ right))
  | greater => some (truth (right < left))
  | atLeast => some (truth (right ≤ left))
  | equal => some (truth (left = right))
  | unequal => some (truth (left ≠ right))
  | bitAnd => some (onBits Nat.land left right)
  | bitXor => some (onBits Nat.xor left right)
  | bitOr => some (onBits Nat.lor left right)

/-- Applies a sign. -/
def Sign.apply (sign : Sign) (value : Int) : Int :=
  match sign with
  | positive => value
  | negative => wrapped (-value)
  | complement => -value - 1
  | opposite => truth (value = 0)

/-- The parameters while an expression is computed: those that it has assigned itself, the latest first,
and the others. -/
structure Bindings where
  assigned : List (Text × Int)
  others : Text → Text

/-- The value of a parameter. -/
def Bindings.value? (bindings : Bindings) (name : Text) : Option Int :=
  match bindings.assigned.lookup name with
  | some value => some value
  | none => parameterValue? (bindings.others name)

/-- The value of an expression, and the parameters after it has been computed. -/
def Expression.compute? : Expression → Bindings → Option (Int × Bindings)
  | number value, bindings => some (value, bindings)
  | parameter name, bindings => (bindings.value? name).map (·, bindings)
  | signed sign operand, bindings => do
      let (value, bindings) ← operand.compute? bindings
      pure (sign.apply value, bindings)
  | binary operator left right, bindings => do
      let (first, bindings) ← left.compute? bindings
      let (second, bindings) ← right.compute? bindings
      pure (← operator.apply? first second, bindings)
  | both left right, bindings => do
      let (first, bindings) ← left.compute? bindings
      if first = 0 then pure (0, bindings)
      else
        let (second, bindings) ← right.compute? bindings
        pure (truth (second ≠ 0), bindings)
  | either left right, bindings => do
      let (first, bindings) ← left.compute? bindings
      if first ≠ 0 then pure (1, bindings)
      else
        let (second, bindings) ← right.compute? bindings
        pure (truth (second ≠ 0), bindings)
  | choice condition yes no, bindings => do
      let (holds, bindings) ← condition.compute? bindings
      if holds ≠ 0 then yes.compute? bindings else no.compute? bindings
  | assign name operator value, bindings => do
      let (new, bindings) ← value.compute? bindings
      let result ← match operator with
        | none => some new
        | some operator => do operator.apply? (← bindings.value? name) new
      pure (result, { bindings with assigned := (name, result) :: bindings.assigned })

/-- A unit of an expression. -/
inductive Symbol where
  | number (value : Int)
  | name (name : Text)
  | mark (text : Text)
deriving DecidableEq, Repr

/-- The marks of expressions, so that none stands behind the beginning of itself. -/
def marks : List Text :=
  ["<<=", ">>=", "&&", "||", "==", "!=", "<=", ">=", "<<", ">>", "+=", "-=", "*=", "/=", "%=", "&=", "^=",
    "|=", "=", "<", ">", "+", "-", "*", "/", "%", "&", "^", "|", "!", "~", "?", ":", "(", ")"].map
    String.toList

/-- The first symbol of a text that is not blank in front, and the text behind it. -/
def readSymbol (text : Text) : Option (Symbol × Text) :=
  match text with
  | [] => none
  | c :: _ =>
      if c.isDigit then
        let (value, rest) := readNumber text
        some (.number (min (value : Int) greatest), rest)
      else if isNameStart c then
        some (.name (text.takeWhile isNameChar), text.dropWhile isNameChar)
      else
        (marks.find? fun mark => mark.isPrefixOf text).map fun mark =>
          (.mark mark, text.drop mark.length)

/-- The symbols of a text. `fuel` bounds their number. -/
def symbols? : (fuel : Nat) → Text → Option (List Symbol)
  | 0, _ => none
  | fuel + 1, text =>
      match text.dropWhile fun c => c = ' ' ∨ c = '\t' ∨ c = '\n' with
      | [] => some []
      | text => do
          let (symbol, rest) ← readSymbol text
          pure (symbol :: (← symbols? fuel rest))

/-- The operators between two numbers by rank, those that bind weakest first. -/
def ranks : List (List (String × Operator)) :=
  [ [("|", .bitOr)], [("^", .bitXor)], [("&", .bitAnd)],
    [("==", .equal), ("!=", .unequal)],
    [("<=", .atMost), (">=", .atLeast), ("<", .less), (">", .greater)],
    [("<<", .shiftLeft), (">>", .shiftRight)],
    [("+", .plus), ("-", .minus)],
    [("*", .times), ("/", .dividedBy), ("%", .modulo)] ]

/-- The operator of a rank that a mark stands for. -/
def operatorOf? (rank : List (String × Operator)) (mark : Text) : Option Operator :=
  (rank.find? fun entry => entry.1.toList = mark).map (·.2)

/-- The assignments: with the operator that joins the old value with the new one, if there is one. -/
def assignments : List (String × Option Operator) :=
  [ ("=", none), ("+=", some .plus), ("-=", some .minus), ("*=", some .times), ("/=", some .dividedBy),
    ("%=", some .modulo), ("<<=", some .shiftLeft), (">>=", some .shiftRight), ("&=", some .bitAnd),
    ("^=", some .bitXor), ("|=", some .bitOr) ]

/-- The signs. -/
def signs : List (String × Sign) :=
  [("+", .positive), ("-", .negative), ("~", .complement), ("!", .opposite)]

/-- The symbols behind a mark that has to stand in front. -/
def after? (mark : String) : List Symbol → Option (List Symbol)
  | .mark found :: rest => if found = mark.toList then some rest else none
  | _ => none

mutual

/-- Reads an assignment or a condition. `fuel` bounds the steps. -/
def readAssignment : (fuel : Nat) → List Symbol → Option (Expression × List Symbol)
  | 0, _ => none
  | fuel + 1, symbols =>
      match symbols with
      | .name name :: .mark mark :: rest =>
          match assignments.find? fun entry => entry.1.toList = mark with
          | some (_, operator) => do
              let (value, rest) ← readAssignment fuel rest
              pure (.assign name operator value, rest)
          | none => readChoice fuel symbols
      | symbols => readChoice fuel symbols

/-- Reads a condition with two outcomes, or what may be one. -/
def readChoice : (fuel : Nat) → List Symbol → Option (Expression × List Symbol)
  | 0, _ => none
  | fuel + 1, symbols => do
      let (condition, rest) ← readEither fuel symbols
      match after? "?" rest with
      | none => pure (condition, rest)
      | some rest =>
          let (yes, rest) ← readAssignment fuel rest
          let (no, rest) ← readChoice fuel (← after? ":" rest)
          pure (.choice condition yes no, rest)

/-- Reads conditions of which one is enough. -/
def readEither : (fuel : Nat) → List Symbol → Option (Expression × List Symbol)
  | 0, _ => none
  | fuel + 1, symbols => do
      let (first, rest) ← readBoth fuel symbols
      match after? "||" rest with
      | none => pure (first, rest)
      | some rest =>
          let (second, rest) ← readEither fuel rest
          pure (.either first second, rest)

/-- Reads conditions that all have to hold. -/
def readBoth : (fuel : Nat) → List Symbol → Option (Expression × List Symbol)
  | 0, _ => none
  | fuel + 1, symbols => do
      let (first, rest) ← readRank fuel ranks symbols
      match after? "&&" rest with
      | none => pure (first, rest)
      | some rest =>
          let (second, rest) ← readBoth fuel rest
          pure (.both first second, rest)

/-- Reads operands that operators of the first rank join. -/
def readRank : (fuel : Nat) → List (List (String × Operator)) → List Symbol →
    Option (Expression × List Symbol)
  | 0, _, _ => none
  | fuel + 1, [], symbols => readSigned fuel symbols
  | fuel + 1, rank :: stronger, symbols => do
      let (first, rest) ← readRank fuel stronger symbols
      readOperands fuel rank stronger first rest

/-- Reads on behind an operand. -/
def readOperands : (fuel : Nat) → List (String × Operator) → List (List (String × Operator)) →
    Expression → List Symbol → Option (Expression × List Symbol)
  | 0, _, _, _, _ => none
  | fuel + 1, rank, stronger, first, symbols =>
      match symbols with
      | .mark mark :: rest =>
          match operatorOf? rank mark with
          | some operator => do
              let (second, rest) ← readRank fuel stronger rest
              readOperands fuel rank stronger (.binary operator first second) rest
          | none => some (first, symbols)
      | symbols => some (first, symbols)

/-- Reads a number, a parameter, an expression in parentheses, or one of them behind a sign. -/
def readSigned : (fuel : Nat) → List Symbol → Option (Expression × List Symbol)
  | 0, _ => none
  | fuel + 1, symbols =>
      match symbols with
      | .number value :: rest => some (.number value, rest)
      | .name name :: rest => some (.parameter name, rest)
      | .mark mark :: rest =>
          if mark = ['('] then do
            let (inside, rest) ← readAssignment fuel rest
            pure (inside, ← after? ")" rest)
          else do
            let (_, sign) ← signs.find? fun entry => entry.1.toList = mark
            let (operand, rest) ← readSigned fuel rest
            pure (.signed sign operand, rest)
      | [] => none

end

/-- The expression that a text stands for. -/
def Expression.ofText? (text : Text) : Option Expression := do
  let symbols ← symbols? (text.length + 1) text
  match ← readAssignment (16 * symbols.length + 32) symbols with
  | (expression, []) => pure expression
  | _ => none

/-- The value of the text of an expression, and the parameters that it assigns, the latest first. -/
def value? (lookup : Text → Text) (text : Text) : Option (Int × List (Text × Int)) := do
  let expression ← Expression.ofText? text
  let (value, bindings) ← expression.compute? ⟨[], lookup⟩
  pure (value, bindings.assigned)

end SecureShell.Rehearsal.Shell.Arithmetic
