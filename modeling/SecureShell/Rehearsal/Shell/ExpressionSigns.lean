/-
Module: SecureShell.Rehearsal.Shell.ExpressionSigns
Purpose: How regular expressions are written, in a basic or in an extended way, which differ in what has to be
  protected by a backslash. Where nothing stands that could be repeated, a sign of repetition means itself, is
  passed over or is wrong, and so it is with brackets that do not belong together.
Main exports: ExpressionStyle, ExpressionFault, Expression.read
-/
import SecureShell.Rehearsal.Shell.Expression

namespace SecureShell.Rehearsal.Shell

/-- How an expression is written. A lenient extended one may have signs of repetition and closing brackets where
they have no meaning; in a strict one something has to stand on each side of a bar and in each pair of brackets. -/
inductive ExpressionStyle where
  | basic
  | extended
  | lenient
  | strict
deriving DecidableEq, Repr

/-- What is wrong with an expression. -/
inductive ExpressionFault where
  | malformed
  | unmatchedBracket
  | unmatchedOpening
  | unmatchedClosing
  | unmatchedBrace
  | badBounds
  | tooBig
  | badRange
  | badClass
  | badCollation
  | nothingBefore
  | trailingBackslash
  | badGroup
deriving DecidableEq, Repr

/-- The wording of what is wrong. -/
def ExpressionFault.message : ExpressionFault → String
  | .malformed => "Invalid regular expression"
  | .unmatchedBracket => "Unmatched [, [^, [:, [., or [="
  | .unmatchedOpening => "Unmatched ( or \\("
  | .unmatchedClosing => "Unmatched ) or \\)"
  | .unmatchedBrace => "Unmatched \\\x7b"
  | .badBounds => "Invalid content of \\\x7b\\\x7d"
  | .tooBig => "Regular expression too big"
  | .badRange => "Invalid range end"
  | .badClass => "Invalid character class name"
  | .badCollation => "Invalid collation character"
  | .nothingBefore => "Invalid preceding regular expression"
  | .trailingBackslash => "Trailing backslash"
  | .badGroup => "Invalid back reference"

namespace Expression

/-- What the signs of an expression mean. -/
inductive Sign where
  | item (expression : Expression)
  | opening
  | closing
  | bar
  | times (least : Nat) (most : Option Nat)
deriving DecidableEq, Repr

/-- A character that means itself. -/
def exactly (c : Char) : Sign :=
  .item (.one false [.range c c])

/-- What a letter behind a backslash stands for, if it has a meaning of its own. -/
def letterSign? (c : Char) : Option Sign :=
  let words : List CharSet := [.named "alnum".toList, .range '_' '_']
  let spaces : List CharSet := [.named "space".toList]
  if c = 'w' then some (.item (.one false words))
  else if c = 'W' then some (.item (.one true words))
  else if c = 's' then some (.item (.one false spaces))
  else if c = 'S' then some (.item (.one true spaces))
  else if c = '<' then some (.item (.at .wordStart))
  else if c = '>' then some (.item (.at .wordEnd))
  else if c = 'b' then some (.item (.at .wordEdge))
  else if c = 'B' then some (.item (.at .noWordEdge))
  else if c.toNat = 96 then some (.item (.at .textStart))
  else if c = '\'' then some (.item (.at .textFinish))
  else if '1' ≤ c ∧ c ≤ '9' then some (.item (.again (c.toNat - '0'.toNat)))
  else none

/-- The greatest number of repetitions. -/
def timesLimit : Nat := 32767

/-- The bounds of a repetition up to its end, and the text behind that. Text that has not the form of bounds is
nothing but text in a lenient or a strict expression. -/
def cutBounds (style : ExpressionStyle) (text : Text) : Except ExpressionFault (Option (Sign × Text)) :=
  let least := text.takeWhile Char.isDigit
  let behind := text.drop least.length
  let digits := (behind.drop 1).takeWhile Char.isDigit
  let isRange := behind.head? = some ','
  let rest := if isRange then behind.drop (digits.length + 1) else behind
  let value (digits : Text) : Nat := Nat.ofDigitChars 10 digits 0
  let most := if isRange then (if digits = [] then none else some (value digits)) else some (value least)
  let isClosed := if style = .basic then "\\\x7d".toList.isPrefixOf rest else rest.head? = some '\x7d'
  if isClosed = true ∧ (least ≠ [] ∨ isRange = true) then
    if most.any (· < value least) then .error .badBounds
    else if timesLimit < most.getD (value least) then .error .tooBig
    else .ok (some (.times (value least) most, rest.drop (if style = .basic then 2 else 1)))
  else if style = .lenient ∨ style = .strict then .ok none
  else .error (if rest = [] then .unmatchedBrace else .badBounds)

/-- The name of a class of characters, or what else stands between two pairs of signs in a list in brackets. -/
def cutNamed (mark : Char) : Text → Option (Text × Text)
  | [] => none
  | c :: rest =>
      if c = mark ∧ rest.head? = some ']' then some ([], rest.drop 1)
      else (cutNamed mark rest).map fun (name, rest) => (c :: name, rest)

/-- The names of classes of characters. -/
def classNames : List Text :=
  ["alpha", "digit", "alnum", "upper", "lower", "blank", "space", "punct", "print", "graph", "cntrl",
    "xdigit"].map String.toList

/-- An element of a list in brackets: a class, which cannot be the end of a range, or a character. -/
def cutElement : Text → Except ExpressionFault (CharSet × Bool × Text)
  | '[' :: mark :: rest =>
      if mark = ':' then
        match cutNamed ':' rest with
        | some (name, behind) =>
            if classNames.contains name then .ok (.named name, true, behind) else .error .badClass
        | none => .ok (.range '[' '[', false, mark :: rest)
      else if mark = '.' ∨ mark = '=' then
        match cutNamed mark rest with
        | some ([c], behind) => .ok (.range c c, mark = '=', behind)
        | some _ => .error .badCollation
        | none => .error .unmatchedBracket
      else .ok (.range '[' '[', false, mark :: rest)
  | c :: rest => .ok (.range c c, false, rest)
  | [] => .error .unmatchedBracket

/-- The elements of a list in brackets up to its end. A closing bracket means itself if it comes first. `fuel`
bounds the steps. -/
def cutElements : (fuel : Nat) → (isFirst : Bool) → Text → Except ExpressionFault (List CharSet × Text)
  | 0, _, _ => .error .unmatchedBracket
  | fuel + 1, isFirst, text =>
      if text.head? = some ']' ∧ isFirst = false then .ok ([], text.drop 1)
      else do
        let (set, isClass, rest) ← cutElement text
        match rest with
        | '-' :: c :: behind =>
            if c = ']' then
              let (sets, rest) ← cutElements fuel false rest
              pure (set :: sets, rest)
            else
              let (last, isClass', behind) ← cutElement (c :: behind)
              match set, last, isClass || isClass' with
              | .range first _, .range last _, false =>
                  if last < first then throw .badRange
                  let (sets, rest) ← cutElements fuel false behind
                  pure (.range first last :: sets, rest)
              | _, _, _ => throw .badRange
        | rest =>
            let (sets, rest) ← cutElements fuel false rest
            pure (set :: sets, rest)

/-- A list in brackets, and the text behind it. -/
def cutSets (text : Text) : Except ExpressionFault (Sign × Text) :=
  let negated := text.head? = some '^'
  if text = [] then .error .malformed
  else
    (cutElements (text.length + 1) true (if negated then text.drop 1 else text)).map fun (sets, rest) =>
      (.item (.one negated sets), rest)

/-- Whether a dollar sign in a basic expression stands at an end. -/
def endsBasic : Text → Bool
  | [] => true
  | '\\' :: c :: _ => c = ')' || c = '|'
  | _ => false

/-- The sign that a character stands for which is special without a backslash in an extended expression and with
one in a basic one, if it is one of these; none at all if it is passed over. `isFirst` tells whether nothing
stands before it that could be repeated. -/
def joinedSign? (style : ExpressionStyle) (isFirst : Bool) (c : Char) (rest : Text) :
    Option (Except ExpressionFault (Option Sign × Text)) :=
  let sign (sign : Sign) : Option (Except ExpressionFault (Option Sign × Text)) := some (.ok (some sign, rest))
  let times (least : Nat) (most : Option Nat) : Option (Except ExpressionFault (Option Sign × Text)) :=
    if isFirst then
      match style with
      | .basic => none
      | .lenient => some (.ok (none, rest))
      | _ => some (.error .nothingBefore)
    else sign (.times least most)
  if c = '(' then sign .opening
  else if c = ')' then sign .closing
  else if c = '|' then sign .bar
  else if c = '+' then times 1 none
  else if c = '?' then times 0 (some 1)
  else if c = '\x7b' then
    match cutBounds style rest with
    | .ok none => none
    | .ok (some (found, rest)) =>
        if isFirst = true ∧ style = .strict then none
        else if isFirst = true ∧ style = .lenient then some (.ok (none, rest))
        else if isFirst then some (.error .nothingBefore)
        else some (.ok (some found, rest))
    | .error fault => some (.error (if isFirst then .nothingBefore else fault))
  else none

/-- The sign at the beginning of an expression, and the text behind it. -/
def cutSign (style : ExpressionStyle) (isFirst : Bool) (c : Char) (rest : Text) :
    Except ExpressionFault (Option Sign × Text) :=
  let item (anchor : Anchor) : Except ExpressionFault (Option Sign × Text) := .ok (some (.item (.at anchor)), rest)
  if c = '\\' then
    match rest with
    | [] => .error .trailingBackslash
    | next :: rest =>
        match letterSign? next, if style = .basic then joinedSign? style isFirst next rest else none with
        | some sign, _ => .ok (some sign, rest)
        | none, some found => found
        | none, none => .ok (some (exactly next), rest)
  else if c = '[' then (cutSets rest).map fun (sign, rest) => (some sign, rest)
  else if c = '.' then .ok (some (.item (.one true [])), rest)
  else if c = '*' then
    if isFirst = false then .ok (some (.times 0 none), rest)
    else
      match style with
      | .basic => .ok (some (exactly c), rest)
      | .lenient => .ok (none, rest)
      | _ => .error .nothingBefore
  else if c = '^' ∧ (style ≠ .basic ∨ isFirst = true) then item .start
  else if c = '$' ∧ (style ≠ .basic ∨ endsBasic rest = true) then item .finish
  else
    match if style = .basic then none else joinedSign? style isFirst c rest with
    | some found => found
    | none => .ok (some (exactly c), rest)

/-- Whether behind a sign nothing stands that could be repeated. -/
def leavesFirst : Sign → Bool
  | .opening => true
  | .bar => true
  | .item (.at _) => true
  | _ => false

/-- The signs of an expression. `fuel` bounds their number. -/
def signs (style : ExpressionStyle) : (fuel : Nat) → (isFirst : Bool) → Text →
    Except ExpressionFault (List Sign)
  | 0, _, _ => .ok []
  | _, _, [] => .ok []
  | fuel + 1, isFirst, c :: rest => do
      match ← cutSign style isFirst c rest with
      | (some sign, rest) => pure (sign :: (← signs style fuel (leavesFirst sign) rest))
      | (none, rest) => signs style fuel isFirst rest

/-- Whether something is missing on a side of a bar or in a pair of brackets. `isFirst` tells whether nothing stands
before the signs, and `depth`, in how many pairs of brackets they stand. -/
def lacksOperand : (isFirst : Bool) → (depth : Nat) → List Sign → Bool
  | isFirst, depth, [] => isFirst && depth = 0
  | _, _, [.bar] => true
  | _, depth, .opening :: rest => lacksOperand true (depth + 1) rest
  | _, 0, .closing :: rest => lacksOperand false 0 rest
  | isFirst, depth + 1, .closing :: rest => isFirst || lacksOperand false depth rest
  | isFirst, depth, .bar :: rest => isFirst || lacksOperand true depth rest
  | _, depth, _ :: rest => lacksOperand false depth rest

/-- An expression with the repetitions that follow it. -/
def withTimes (expression : Expression) : List Sign → Expression × List Sign
  | .times least most :: rest => withTimes (.repeated least most expression) rest
  | rest => (expression, rest)

/-- What has been read of an expression: itself, the number of groups that have been opened, the numbers of those
that have been closed, and the signs behind it. -/
structure ReadPart where
  expression : Expression
  opened : Nat
  closed : List Nat
  rest : List Sign

mutual

/-- Reads ways of which each is enough, behind some groups. `inside` tells whether a closing bracket ends them.
`fuel` bounds the steps. -/
def readWays (style : ExpressionStyle) : (fuel : Nat) → (inside : Bool) → (opened : Nat) →
    (closed : List Nat) → List Sign → Except ExpressionFault ReadPart
  | 0, _, _, _, _ => .error .tooBig
  | fuel + 1, inside, opened, closed, signs => do
      let first ← readParts style fuel inside ⟨.empty, opened, closed, signs⟩
      match first.rest with
      | .bar :: rest =>
          let second ← readWays style fuel inside first.opened first.closed rest
          pure { second with expression := .either first.expression second.expression }
      | _ => pure first

/-- Reads parts one after the other behind those that have been read. -/
def readParts (style : ExpressionStyle) : (fuel : Nat) → (inside : Bool) → (before : ReadPart) →
    Except ExpressionFault ReadPart
  | 0, _, _ => .error .tooBig
  | fuel + 1, inside, before =>
      match before.rest with
      | .item expression :: rest => do
          if let .again number := expression then
            if !before.closed.contains number then throw .badGroup
          let (part, rest) := withTimes expression rest
          readParts style fuel inside { before with expression := .both before.expression part, rest }
      | .opening :: rest => do
          let number := before.opened + 1
          let body ← readWays style fuel true number before.closed rest
          match body.rest with
          | .closing :: rest =>
              let (part, rest) := withTimes (.group number body.expression) rest
              readParts style fuel inside
                ⟨.both before.expression part, body.opened, number :: body.closed, rest⟩
          | _ => throw .unmatchedOpening
      | .closing :: rest =>
          if inside then .ok before
          else if style = .lenient ∨ style = .strict then
            let (part, rest) := withTimes (.one false [.range ')' ')']) rest
            readParts style fuel inside { before with expression := .both before.expression part, rest }
          else .error .unmatchedClosing
      | .times _ _ :: rest => readParts style fuel inside { before with rest }
      | _ => .ok before

end

/-- Reads an expression. -/
def read (style : ExpressionStyle) (text : Text) : Except ExpressionFault Expression := do
  let signs ← signs style (text.length + 1) true text
  if style = .strict ∧ signs ≠ [] ∧ lacksOperand true 0 signs = true then throw .nothingBefore
  let found ← readWays style (2 * signs.length + 2) false 0 [] signs
  pure found.expression

example : ((read .basic "b*c".toList).toOption.bind fun e => e.search false "abbc".toList)
    = some ⟨['a'], "bbc".toList, [], []⟩ := by decide +kernel
example : ((read .basic "\\(.\\)\\1$".toList).toOption.bind fun e => e.search false "abcc".toList)
    = some ⟨"ab".toList, "cc".toList, [(1, ['c'])], []⟩ := by decide +kernel
example : ((read .extended "(a|ab)(c|bcd)".toList).toOption.bind fun e => e.search false "abcd".toList)
    = some ⟨[], "abcd".toList, [(2, "bcd".toList), (1, ['a'])], []⟩ := by decide +kernel

end Expression

end SecureShell.Rehearsal.Shell
