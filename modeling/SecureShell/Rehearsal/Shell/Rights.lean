/-
Module: SecureShell.Rehearsal.Shell.Rights
Purpose: The rights to a file as a number of twelve bits, and the changes of rights in writing: digits in base
  eight stand for all rights; clauses name groups, an operator, and rights or a group whose rights are taken.
Main exports: Rights.changed?
-/
import SecureShell.Text.Span

namespace SecureShell.Rehearsal.Shell.Rights

/-- The rights that belong to a group of users, by its letter. -/
def groupBits (letter : Char) : Option Nat :=
  [('u', 0o4700), ('g', 0o2070), ('o', 0o1007), ('a', 0o7777)].lookup letter

/-- The rights that a letter stands for, in all groups. Running is meant by a capital letter only where it
makes sense: in a directory, or where a group has it already. -/
def rightBits (isDirectory : Bool) (mode : Nat) (letter : Char) : Option Nat :=
  if letter = 'X' then some (if isDirectory || Nat.land mode 0o111 ≠ 0 then 0o111 else 0)
  else [('r', 0o444), ('w', 0o222), ('x', 0o111), ('s', 0o6000), ('t', 0o1000)].lookup letter

/-- The rights that a group has, given to all groups. -/
def takenBits (mode : Nat) (letter : Char) : Option Nat :=
  let given (digit : Nat) : Nat := digit * 0o111
  match letter with
  | 'u' => some (given (mode / 0o100 % 8))
  | 'g' => some (given (mode / 0o10 % 8))
  | 'o' => some (given (mode % 8))
  | _ => none

/-- The bits of one number that another one does not have. -/
def without (bits others : Nat) : Nat :=
  Nat.xor bits (Nat.land bits others)

/-- The rights after an operator. Where no group is named, all are meant, but for what a mask takes away. -/
def applied (mask : Nat) (groups : Option Nat) (operator : Char) (bits mode : Nat) : Nat :=
  let meant := match groups with
    | some groups => Nat.land bits groups
    | none => without bits mask
  match operator with
  | '+' => Nat.lor mode meant
  | '-' => without mode meant
  | _ => Nat.lor (without mode (groups.getD 0o7777)) meant

/-- Applies the operators of a clause one after the other. `fuel` bounds their number. -/
def operators? (mask : Nat) (isDirectory : Bool) (groups : Option Nat) :
    (fuel : Nat) → Text → (mode : Nat) → Option Nat
  | 0, _, _ => none
  | _, [], mode => some mode
  | fuel + 1, operator :: rest, mode =>
      if operator ∉ ['+', '-', '='] then none
      else
        let letters := rest.takeWhile fun c => c ∉ ['+', '-', '=']
        let bits? := match letters with
          | [letter] => (takenBits mode letter).or (rightBits isDirectory mode letter)
          | letters => letters.foldl (fun bits letter => do
              pure (Nat.lor (← bits) (← rightBits isDirectory mode letter))) (some 0)
        match bits? with
        | none => none
        | some bits =>
            operators? mask isDirectory groups fuel (rest.drop letters.length)
              (applied mask groups operator bits mode)

/-- Applies one clause: the groups in front, and at least one operator. -/
def clause? (mask : Nat) (isDirectory : Bool) (clause : Text) (mode : Nat) : Option Nat :=
  let letters := clause.takeWhile fun c => (groupBits c).isSome
  let rest := clause.drop letters.length
  let groups := letters.foldl (fun bits letter => Nat.lor bits ((groupBits letter).getD 0)) 0
  if rest = [] then none
  else operators? mask isDirectory (if letters = [] then none else some groups) (rest.length + 1) rest mode

/-- The rights after a change in writing, unless it is malformed. -/
def changed? (change : Text) (mask : Nat) (isDirectory : Bool) (mode : Nat) : Option Nat :=
  if change ≠ [] ∧ change.all (fun c => '0' ≤ c && c ≤ '7') = true then
    let value := Nat.ofDigitChars 8 change 0
    if value ≤ 0o7777 then some value else none
  else
    (Text.segments ',' change).foldl (fun mode? clause => mode?.bind (clause? mask isDirectory clause))
      (some mode)

example : changed? "u=rwx,g=rx,o=".toList 0 false 0o644 = some 0o750 := by decide
example : changed? "+x,g-r".toList 0o22 false 0o644 = some 0o715 := by decide
example : changed? "go=u".toList 0 false 0o600 = some 0o666 := by decide

end SecureShell.Rehearsal.Shell.Rights
