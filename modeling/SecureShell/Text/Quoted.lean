/-
Module: SecureShell.Text.Quoted
Purpose: The quoted form of a text in messages and summaries. It stands between double quotes; a double
  quote, a backslash, the null character, tab, return and line feed have escapes of two characters; every
  other hidden character is named by its code point in small hexadecimal digits without leading zeros.
Main exports: Text.escape, Text.quoted
-/
import SecureShell.Text.Hidden

namespace SecureShell.Text

/-- The written form of one character between quotes. -/
def escape (c : Char) : Text :=
  if c = '"' then ['\\', '"']
  else if c = '\\' then ['\\', '\\']
  else if c = '\x00' then ['\\', '0']
  else if c = '\t' then ['\\', 't']
  else if c = '\r' then ['\\', 'r']
  else if c = '\n' then ['\\', 'n']
  else if isHidden c then ['\\', 'u', '\x7b'] ++ Nat.toDigits 16 c.toNat ++ ['\x7d']
  else [c]

/-- A text between double quotes, with its hidden characters escaped. -/
def quoted (text : Text) : Text :=
  '"' :: text.flatMap escape ++ ['"']

/-- Letters, digits and marks of ASCII stand for themselves. -/
example : quoted "a'b 1".toList = "\"a'b 1\"".toList := by decide

/-- Quotes, backslashes and controls are escaped. -/
example : quoted ['"', '\\', '\n', '\x7f'] = "\"\\\"\\\\\\n\\u\x7b7f\x7d\"".toList := by decide

end SecureShell.Text
