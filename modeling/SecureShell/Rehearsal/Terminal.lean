/-
Module: SecureShell.Rehearsal.Terminal
Purpose: A terminal at which a text has been typed beforehand, and the line editor that reads a secret from
  it without showing it. Erase keys take back a character, a word or the line; the end key ends the input
  where nothing stands on the line; escape sequences and all other control characters do nothing. What is
  taken back is wiped from the screen, though not more than the editor believes to be shown there: after a
  word has been taken back it believes that all is shown which remains.
Main exports: Terminal.Entry, Terminal.readLine
-/
import SecureShell.Text.Blank

namespace SecureShell.Rehearsal.Terminal

/-- The key that takes back one character; the backspace character does the same. -/
def eraseKey : Char := '\x7f'

/-- The backspace character. -/
def backspace : Char := '\x08'

/-- The key that takes back one word. -/
def wordEraseKey : Char := '\x17'

/-- The key that takes back the line. -/
def killKey : Char := '\x15'

/-- The key that ends the input. -/
def endKey : Char := '\x04'

/-- The character that begins an escape sequence. -/
def escapeKey : Char := '\x1b'

/-- Whether a character is a control character. -/
def isControl (c : Char) : Bool :=
  c.toNat < 0x20 || (0x7f ≤ c.toNat && c.toNat < 0xa0)

/-- What is left behind the parameters of an escape sequence and the character that ends it. -/
def afterParameters : Text → Text
  | [] => []
  | key :: rest => if '@' ≤ key ∧ key ≤ '~' then rest else afterParameters rest

/-- What is left behind an escape sequence whose first character has been read: a bracket or an `O`
introduces parameters, and any other character is the whole sequence. -/
def afterEscape : Text → Text
  | [] => []
  | '[' :: rest => afterParameters rest
  | 'O' :: rest => afterParameters rest
  | _ :: rest => rest

/-- A line that is being typed, its last character first, with how many of its characters the editor
believes to be shown, and what it has written to the screen so far. -/
structure Draft where
  typed : Text
  shown : Nat
  screen : Text
deriving DecidableEq, Repr

namespace Draft

/-- A line on which nothing stands. -/
def empty : Draft := ⟨[], 0, []⟩

/-- Wipes characters from the screen. -/
def wipe (count : Nat) : Text :=
  (List.replicate count "\x08 \x08".toList).flatten

/-- The line of which only some characters remain, of which `shown` are taken to be shown from now on. -/
def takenBack (draft : Draft) (remaining : Text) (shown : Nat) : Draft :=
  let removed := draft.typed.length - remaining.length
  ⟨remaining, shown, draft.screen ++ wipe (min removed draft.shown)⟩

/-- The line without its last character. -/
def erase (draft : Draft) : Draft :=
  match draft.typed with
  | [] => draft
  | _ :: rest => draft.takenBack rest (draft.shown - 1)

/-- The line without its last word and the blanks behind that. Words are kept apart by spaces alone. -/
def eraseWord (draft : Draft) : Draft :=
  let rest := (draft.typed.dropWhile Text.isBlank).dropWhile (· ≠ ' ')
  draft.takenBack rest rest.length

/-- Nothing in the place of the line. -/
def kill (draft : Draft) : Draft :=
  draft.takenBack [] 0

/-- The line with one more character. -/
def add (draft : Draft) (key : Char) : Draft :=
  { draft with typed := key :: draft.typed }

/-- The characters of the line in order. -/
def text (draft : Draft) : Text :=
  draft.typed.reverse

end Draft

/-- What reading one line comes to: the line, or the end of the input; what was written to the screen, and
what is typed behind it. -/
inductive Entry where
  | line (text : Text) (screen : Text) (rest : Text)
  | ended (screen : Text) (rest : Text)
deriving DecidableEq, Repr

/-- Reads on at a line. `fuel` bounds the keys. -/
def readOn : (fuel : Nat) → Draft → (typed : Text) → Entry
  | 0, draft, typed => .ended draft.screen typed
  | _, draft, [] => .ended draft.screen []
  | fuel + 1, draft, key :: rest =>
      if key = '\n' ∨ key = '\r' then .line draft.text (draft.screen ++ ['\n']) rest
      else if key = endKey ∧ draft.typed = [] then .ended draft.screen rest
      else if key = eraseKey ∨ key = backspace then readOn fuel draft.erase rest
      else if key = wordEraseKey then readOn fuel draft.eraseWord rest
      else if key = killKey then readOn fuel draft.kill rest
      else if key = escapeKey then readOn fuel draft (afterEscape rest)
      else if isControl key then readOn fuel draft rest
      else readOn fuel (draft.add key) rest

/-- Reads one line of what is typed. -/
def readLine (typed : Text) : Entry :=
  readOn (typed.length + 1) .empty typed

example : readLine ['x', killKey, 'a', 'b', eraseKey, 'c', '\n', 'd']
    = .line ['a', 'c'] ['\n'] ['d'] := by decide
example : readLine ['a', endKey, backspace, endKey] = .ended [] [] := by decide
example : readLine ['a', ' ', 'b', wordEraseKey, eraseKey, '\n']
    = .line ['a'] ['\x08', ' ', '\x08', '\n'] [] := by decide
example : readLine ['a', ' ', 'b', wordEraseKey, 'c', 'd', wordEraseKey, wordEraseKey, '\n']
    = .line [] (Draft.wipe 4 ++ ['\n']) [] := by decide
example : readLine ['a', escapeKey, '[', '1', 'D', '\t', 'b', '\n']
    = .line ['a', 'b'] ['\n'] [] := by decide

end SecureShell.Rehearsal.Terminal
