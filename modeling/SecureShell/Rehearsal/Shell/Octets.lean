/-
Module: SecureShell.Rehearsal.Shell.Octets
Purpose: A shell and its programs know bytes and no characters: patterns, lengths and columns count bytes.
  So the texts that a shell handles are spelled with a character for each byte, whose code is the value of
  that byte.
Main exports: spelled, unspelled, bytesOf, ofBytes
-/
import SecureShell.Bytes.Utf8

namespace SecureShell.Rehearsal.Shell

/-- The spelling of bytes. -/
def ofBytes (bytes : Bytes) : Text :=
  bytes.map fun byte => Char.ofNat byte.toNat

/-- The bytes that a text spells. -/
def bytesOf (text : Text) : Bytes :=
  text.map fun c => c.toNat.toUInt8

/-- The spelling of a text. -/
def spelled (text : Text) : Text :=
  ofBytes (Text.utf8 text)

/-- The text that is spelled, with the replacement character for what is no character. -/
def unspelled (text : Text) : Text :=
  Utf8.decodeLeniently (bytesOf text)

example : spelled "aé".toList = ['a', '\xc3', '\xa9'] := by decide
example : unspelled ['a', '\xc3', '\xa9'] = "aé".toList := by decide

end SecureShell.Rehearsal.Shell
