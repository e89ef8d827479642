/-
Module: SecureShell.Bytes.Utf8
Purpose: Text as bytes in UTF-8. Bytes are cut into pieces: a character with its width, a malformed run,
  or a character that the end cuts off. A malformed run is the longest beginning that some well-formed
  sequence has, and at least one byte. Reading refuses at the first piece that is no character; lenient
  reading puts the replacement character in the place of every such piece.
Main exports: Bytes, Text.utf8, Utf8.pieces, Utf8.Fault, Utf8.decode, Utf8.decodeLeniently
-/
import SecureShell.Text.Decimal

namespace SecureShell

/-- A sequence of bytes. -/
abbrev Bytes := List UInt8

/-- The bytes of a text. -/
def Text.utf8 (text : Text) : Bytes :=
  text.flatMap String.utf8EncodeChar

namespace Utf8

/-- What a first byte announces: a character of its own, or a number of further bytes of which the first
is within bounds. -/
inductive Lead where
  | never
  | single
  | multiple (further : Nat) (low high : UInt8)
deriving DecidableEq, Repr

/-- The announcement of a first byte. -/
def lead (byte : UInt8) : Lead :=
  if byte < 0x80 then .single
  else if byte < 0xC2 then .never
  else if byte < 0xE0 then .multiple 1 0x80 0xBF
  else if byte = 0xE0 then .multiple 2 0xA0 0xBF
  else if byte = 0xED then .multiple 2 0x80 0x9F
  else if byte < 0xF0 then .multiple 2 0x80 0xBF
  else if byte = 0xF0 then .multiple 3 0x90 0xBF
  else if byte < 0xF4 then .multiple 3 0x80 0xBF
  else if byte = 0xF4 then .multiple 3 0x80 0x8F
  else .never

/-- A part of a byte sequence as the reader sees it. -/
inductive Piece where
  | char (c : Char) (width : Nat)
  | malformed (width : Nat)
  | cutOff
deriving DecidableEq, Repr

/-- A byte that continues a character. -/
def continues (byte : UInt8) : Bool :=
  0x80 ≤ byte && byte ≤ 0xBF

/-- The six bits that a continuing byte carries. -/
def payload (byte : UInt8) : Nat :=
  byte.toNat % 64

/-- Cuts a byte sequence into its pieces. -/
def pieces : Bytes → List Piece
  | [] => []
  | first :: rest =>
      match lead first with
      | .never => .malformed 1 :: pieces rest
      | .single => .char (Char.ofNat first.toNat) 1 :: pieces rest
      | .multiple further low high =>
          match rest with
          | [] => [.cutOff]
          | second :: rest2 =>
              if second < low || high < second then .malformed 1 :: pieces (second :: rest2)
              else if further = 1 then
                .char (Char.ofNat (first.toNat % 32 * 64 + payload second)) 2 :: pieces rest2
              else
                match rest2 with
                | [] => [.cutOff]
                | third :: rest3 =>
                    if !continues third then .malformed 2 :: pieces (third :: rest3)
                    else if further = 2 then
                      .char (Char.ofNat
                        ((first.toNat % 16 * 64 + payload second) * 64 + payload third)) 3
                        :: pieces rest3
                    else
                      match rest3 with
                      | [] => [.cutOff]
                      | fourth :: rest4 =>
                          if !continues fourth then .malformed 3 :: pieces (fourth :: rest4)
                          else
                            .char (Char.ofNat
                              (((first.toNat % 8 * 64 + payload second) * 64 + payload third) * 64
                                + payload fourth)) 4
                              :: pieces rest4
termination_by structural bytes => bytes

/-- Why a byte sequence is no text, and where the offending piece begins. -/
inductive Fault where
  | malformed (width index : Nat)
  | cutOff (index : Nat)
deriving DecidableEq, Repr

/-- The wording of a fault. -/
def Fault.message : Fault → Text
  | .malformed width index =>
      "invalid utf-8 sequence of ".toList ++ Text.decimal width ++ " bytes from index ".toList
        ++ Text.decimal index
  | .cutOff index => "incomplete utf-8 byte sequence from index ".toList ++ Text.decimal index

/-- The characters of pieces that begin at an index, or the first fault among them. -/
def assemble (index : Nat) : List Piece → Except Fault Text
  | [] => .ok []
  | .char c width :: rest => (assemble (index + width) rest).map (c :: ·)
  | .malformed width :: _ => .error (.malformed width index)
  | .cutOff :: _ => .error (.cutOff index)

/-- The text of a byte sequence, or the first fault in it. -/
def decode (bytes : Bytes) : Except Fault Text :=
  assemble 0 (pieces bytes)

/-- The character that stands for a piece in lenient reading. -/
def Piece.shown : Piece → Char
  | .char c _ => c
  | _ => '\uFFFD'

/-- The text of a byte sequence, with the replacement character for each piece that is no character. -/
def decodeLeniently (bytes : Bytes) : Text :=
  (pieces bytes).map Piece.shown

example : decode [0x61, 0xC3, 0xA9, 0xE6, 0x97, 0xA5] = .ok "aé日".toList := rfl
example : decode [0x61, 0xE2, 0x82, 0x61] = .error (.malformed 2 1) := rfl
example : decode [0xF0, 0x9F] = .error (.cutOff 0) := rfl
example : decodeLeniently [0xE0, 0x80, 0x9F, 0x61] = "\uFFFD\uFFFD\uFFFDa".toList := by decide

end Utf8

end SecureShell
