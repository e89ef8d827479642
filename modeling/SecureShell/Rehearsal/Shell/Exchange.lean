/-
Module: SecureShell.Rehearsal.Shell.Exchange
Purpose: The program that exchanges characters for others, deletes them, or leaves one of a run of them.
  Sets of characters have ranges and classes in them, and a set may stand for all characters that are not
  in it.
Main exports: exchanged, tr
-/
import SecureShell.Rehearsal.Shell.Filters
import SecureShell.Rehearsal.Shell.Arithmetic
import SecureShell.Rehearsal.Shell.Printing

namespace SecureShell.Rehearsal.Shell.Filters

/-- Every character, in order: there is one for each byte. -/
def everyByte : Text :=
  (List.range 256).map Char.ofNat

/-- Whether a character can be seen. -/
def isVisible (c : Char) : Bool :=
  0x21 ≤ c.toNat && c.toNat ≤ 0x7e

/-- The classes of characters that a set may name. -/
def classes : List (String × (Char → Bool)) :=
  [ ("lower", Char.isLower), ("upper", Char.isUpper), ("digit", Char.isDigit), ("alpha", Char.isAlpha),
    ("alnum", Char.isAlphanum), ("blank", fun c => c = ' ' || c = '\t'), ("space", Arithmetic.isSpace),
    ("punct", fun c => isVisible c && !c.isAlphanum), ("graph", isVisible),
    ("print", fun c => isVisible c || c = ' '),
    ("cntrl", fun c => c.toNat < 0x20 || c.toNat = 0x7f),
    ("xdigit", fun c => (Arithmetic.digit? 16 c).isSome) ]

/-- A part of a set: a character that stands there once or several times, or as often as it is needed. -/
inductive Member where
  | char (c : Char)
  | filling (c : Char)
deriving DecidableEq, Repr

/-- A set as it is written: characters, of which those behind a backslash have no other meaning. `fuel` bounds
the steps. -/
def spelledSet : (fuel : Nat) → Text → List (Char × Bool)
  | 0, _ => []
  | _, [] => []
  | fuel + 1, c :: rest =>
      if c = '\\' then
        match if rest.head? = some 'e' then (['\\'], rest) else Printing.escape rest, rest with
        | (['\\'], _), d :: behind =>
            (d, true) :: spelledSet fuel behind
        | (front, behind), _ => front.map (·, true) ++ spelledSet fuel behind
      else (c, false) :: spelledSet fuel rest

/-- The class at the beginning of a set, and what stands behind it. -/
def classAt? (set : List (Char × Bool)) : Option (Text × List (Char × Bool)) :=
  match set with
  | ('[', false) :: (':', false) :: rest =>
      classes.findSome? fun (name, belongs) =>
        let mark := name.toList ++ [':', ']']
        if mark = (rest.take mark.length).map (·.1) then
          some (everyByte.filter belongs, rest.drop mark.length)
        else none
  | ('[', false) :: ('=', false) :: (c, _) :: ('=', false) :: (']', false) :: rest => some ([c], rest)
  | _ => none

/-- The repeated character at the beginning of a set, and what stands behind it. -/
def repeatedAt? (set : List (Char × Bool)) : Option (List Member × List (Char × Bool)) :=
  match set with
  | ('[', false) :: (c, _) :: ('*', false) :: rest =>
      let digits := (rest.takeWhile fun entry => entry.1.isDigit).map (·.1)
      match rest.drop digits.length with
      | (']', false) :: behind =>
          let base := if digits.head? = some '0' then 8 else 10
          let count := Nat.ofDigitChars base digits 0
          some (if count = 0 then [.filling c] else List.replicate (min count 256) (.char c), behind)
      | _ => none
  | _ => none

/-- The characters from one to another. -/
def between (first last : Char) : Text :=
  (List.range (last.toNat + 1 - first.toNat)).map fun index => Char.ofNat (first.toNat + index)

/-- The members of a set, unless a range in it runs backwards. `fuel` bounds the steps. -/
def members? : (fuel : Nat) → List (Char × Bool) → Option (List Member)
  | 0, _ => none
  | _, [] => some []
  | fuel + 1, (c, quoted) :: rest =>
      match classAt? ((c, quoted) :: rest), repeatedAt? ((c, quoted) :: rest), rest with
      | some (inside, behind), _, _ => (members? fuel behind).map (inside.map .char ++ ·)
      | none, some (inside, behind), _ => (members? fuel behind).map (inside ++ ·)
      | none, none, ('-', false) :: (last, _) :: behind =>
          if last < c then none else (members? fuel behind).map ((between c last).map .char ++ ·)
      | none, none, rest => (members? fuel rest).map (.char c :: ·)

/-- The characters of a set. What fills it up makes it as long as another one. -/
def setMembers? (length : Nat) (set : Text) : Option Text :=
  (members? (set.length + 1) (spelledSet (set.length + 1) set)).map fun members =>
    let fixed := members.filter fun member => match member with
      | .char _ => true
      | .filling _ => false
    members.flatMap fun member => match member with
      | .char c => [c]
      | .filling c => List.replicate (length - fixed.length) c

/-- A text in which each run of one of some characters is a single one. -/
def squeezed (belongs : Char → Bool) : Text → Text
  | [] => []
  | c :: rest =>
      match squeezed belongs rest with
      | [] => [c]
      | next :: others => if c = next ∧ belongs c = true then next :: others else c :: next :: others

/-- A text with the characters of a set exchanged for those of another one, whose last character stands for
all that are missing. -/
def exchanged (old new : Text) (text : Text) : Text :=
  let filled := new ++ List.replicate (old.length - new.length) (new.getLastD ' ')
  text.map fun c => ((old.zip filled).reverse.lookup c).getD c

/-- The options of the program that exchanges characters. -/
def exchangeOptions : OptionTable where
  plain := ['c', 'C', 'd', 's', 't']
  valued := []
  names := [("complement", 'c'), ("delete", 'd'), ("squeeze-repeats", 's'), ("truncate-set1", 't')]
  everywhere := false

/-- The members of a set as an operand, unless it is malformed. -/
def setOf (length : Nat) (set : Text) : Except Misuse Text :=
  match setMembers? length set with
  | some members => .ok members
  | none => .error ⟨"range-endpoints of ".toList ++ singleQuoted set
      ++ " are in reverse collating sequence order".toList, false⟩

/-- What the program makes of a text. -/
def exchange (arguments : Arguments) : Except Misuse (Text → Text) := do
  let complemented (set : Text) : Text :=
    if arguments.has 'c' || arguments.has 'C' then everyByte.filter fun c => !set.contains c else set
  let because (misuse : Misuse) (reason : String) : Misuse :=
    { misuse with words := misuse.words ++ '\n' :: reason.toList }
  match arguments.has 'd', arguments.has 's', arguments.operands with
  | true, false, [set] =>
      let set := complemented (← setOf 0 set)
      pure (List.filter fun c => !set.contains c)
  | true, true, [set, other] =>
      let set := complemented (← setOf 0 set)
      let other ← setOf 0 other
      pure fun text => squeezed other.contains (text.filter fun c => !set.contains c)
  | false, true, [set] =>
      let set := complemented (← setOf 0 set)
      pure (squeezed set.contains)
  | false, squeezes, [old, new] =>
      let old := complemented (← setOf 0 old)
      let new ← setOf old.length new
      let old := if arguments.has 't' then old.take new.length else old
      if new = [] ∧ arguments.has 't' = false then
        throw ⟨"when not truncating set1, string2 must be non-empty".toList, false⟩
      else pure fun text =>
        let changed := exchanged old new text
        if squeezes then squeezed new.contains changed else changed
  | _, _, [] => throw .missingOperand
  | true, true, [set] =>
      throw (because (.missingOperandAfter set)
        "Two strings must be given when both deleting and squeezing repeats.")
  | false, false, [set] =>
      throw (because (.missingOperandAfter set) "Two strings must be given when translating.")
  | true, false, _ :: second :: rest =>
      throw (if rest.isEmpty then because (.extraOperand second)
          "Only one string may be given when deleting without squeezing repeats."
        else .extraOperand second)
  | _, _, operands => throw (.extraOperand ((operands[2]?).getD []))

/-- The program that exchanges, deletes or squeezes characters of its input. -/
def tr (arguments : List Text) : Except Misuse Filter := do
  let change ← exchange (← exchangeOptions.read arguments)
  pure (Filter.ofWhole (usualWording "tr") change [])

example :
    (exchange ⟨[], ["a-c".toList, "[:upper:]".toList]⟩).toOption.map (· "abcd".toList)
      = some "ABCd".toList := by decide

end SecureShell.Rehearsal.Shell.Filters
