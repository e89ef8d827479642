/-
Module: SecureShell.Proofs.EncodedText
Purpose: A text is read back from the bytes that write it. The bytes of a character are cut off as one piece, whatever
  stands behind them, so that neither the strict reader nor the lenient one finds anything to object to.
Main exports: Utf8.lead_ofNat, Utf8.pieces_char, Utf8.pieces_text, Utf8.decode_text, Utf8.decodeLeniently_text
-/
import Mathlib.Tactic.SplitIfs
import SecureShell.Bytes.Utf8

namespace SecureShell.Utf8

/-! ### First bytes -/

/-- The announcement of a first byte, by its number. -/
theorem lead_ofNat {n : Nat} (small : n < 256) :
    lead (UInt8.ofNat n) =
      if n < 0x80 then .single
      else if n < 0xC2 then .never
      else if n < 0xE0 then .multiple 1 0x80 0xBF
      else if n = 0xE0 then .multiple 2 0xA0 0xBF
      else if n = 0xED then .multiple 2 0x80 0x9F
      else if n < 0xF0 then .multiple 2 0x80 0xBF
      else if n = 0xF0 then .multiple 3 0x90 0xBF
      else if n < 0xF4 then .multiple 3 0x80 0xBF
      else if n = 0xF4 then .multiple 3 0x80 0x8F
      else .never := by
  have value : (UInt8.ofNat n).toNat = n := UInt8.toNat_ofNat_of_lt' small
  simp only [lead, UInt8.lt_iff_toNat_lt, ← UInt8.toNat_inj, value]
  rfl

/-- A byte that continues a character, by the six bits that it carries. -/
theorem toNat_continuing {n : Nat} (bits : n < 64) : (UInt8.ofNat (n + 128)).toNat = n + 128 :=
  UInt8.toNat_ofNat_of_lt' (show n + 128 < 256 by omega)

theorem payload_continuing {n : Nat} (bits : n < 64) : payload (UInt8.ofNat (n + 128)) = n := by
  rw [payload, toNat_continuing bits]
  omega

theorem continues_continuing {n : Nat} (bits : n < 64) : continues (UInt8.ofNat (n + 128)) = true := by
  simp only [continues, Bool.and_eq_true, decide_eq_true_eq, UInt8.le_iff_toNat_le, toNat_continuing bits]
  exact ⟨Nat.le_add_left 128 n, Nat.add_le_add_right (Nat.le_of_lt_succ bits) 128⟩

/-! ### Characters of several bytes -/

section

variable {first : UInt8} {low high : UInt8} {a b d : Nat}

/-- A continuing byte is within bounds if its six bits are. -/
theorem isWithin_continuing (bits : a < 64) (above : low.toNat ≤ a + 128) (below : a + 128 ≤ high.toNat) :
    (UInt8.ofNat (a + 128) < low || high < UInt8.ofNat (a + 128)) = false := by
  simp only [Bool.or_eq_false_iff, decide_eq_false_iff_not, UInt8.lt_iff_toNat_lt, toNat_continuing bits]
  exact ⟨Nat.not_lt.mpr above, Nat.not_lt.mpr below⟩

theorem pieces_two (announced : lead first = .multiple 1 low high) (bits : a < 64)
    (above : low.toNat ≤ a + 128) (below : a + 128 ≤ high.toNat) (rest : Bytes) :
    pieces (first :: UInt8.ofNat (a + 128) :: rest) =
      .char (Char.ofNat (first.toNat % 32 * 64 + a)) 2 :: pieces rest := by
  rw [pieces, announced]
  simp only [isWithin_continuing bits above below, payload_continuing bits, if_true,
    Bool.false_eq_true, if_false]

theorem pieces_three (announced : lead first = .multiple 2 low high) (bits : a < 64)
    (above : low.toNat ≤ a + 128) (below : a + 128 ≤ high.toNat) (later : b < 64) (rest : Bytes) :
    pieces (first :: UInt8.ofNat (a + 128) :: UInt8.ofNat (b + 128) :: rest) =
      .char (Char.ofNat ((first.toNat % 16 * 64 + a) * 64 + b)) 3 :: pieces rest := by
  rw [pieces, announced]
  simp only [isWithin_continuing bits above below, payload_continuing bits,
    payload_continuing later, continues_continuing later, if_true, Bool.false_eq_true, if_false, Bool.not_true,
    show ¬ 2 = 1 by decide]

theorem pieces_four (announced : lead first = .multiple 3 low high) (bits : a < 64)
    (above : low.toNat ≤ a + 128) (below : a + 128 ≤ high.toNat) (later : b < 64) (last : d < 64) (rest : Bytes) :
    pieces (first :: UInt8.ofNat (a + 128) :: UInt8.ofNat (b + 128) :: UInt8.ofNat (d + 128) :: rest) =
      .char (Char.ofNat (((first.toNat % 8 * 64 + a) * 64 + b) * 64 + d)) 4 :: pieces rest := by
  rw [pieces, announced]
  simp only [isWithin_continuing bits above below, payload_continuing bits,
    payload_continuing later, continues_continuing later, payload_continuing last, continues_continuing last,
    Bool.false_eq_true, if_false, Bool.not_true, show ¬ 3 = 1 by decide, show ¬ 3 = 2 by decide]

end

/-! ### Whole characters -/

section

variable {v : Nat}

/-- The first of three bytes announces bounds that the second one keeps: the number is not too small for three bytes,
and it is none of those that are no characters. -/
theorem lead_three (large : 0x7FF < v) (small : v ≤ 0xFFFF) (valid : v < 0xD800 ∨ 0xDFFF < v) :
    ∃ low high, lead (UInt8.ofNat (v / 4096 % 16 + 224)) = .multiple 2 low high ∧
      low.toNat ≤ v / 64 % 64 + 128 ∧ v / 64 % 64 + 128 ≤ high.toNat := by
  rw [lead_ofNat (by omega), if_neg (by omega), if_neg (by omega), if_neg (by omega)]
  split_ifs with lowest surrogates
  · exact ⟨_, _, rfl, show 160 ≤ _ by omega, show _ ≤ 191 by omega⟩
  · exact ⟨_, _, rfl, show 128 ≤ _ by omega, show _ ≤ 159 by omega⟩
  · exact ⟨_, _, rfl, show 128 ≤ _ by omega, show _ ≤ 191 by omega⟩
  all_goals omega

/-- The first of four bytes announces bounds that the second one keeps. -/
theorem lead_four (large : 0xFFFF < v) (valid : v < 0x110000) :
    ∃ low high, lead (UInt8.ofNat (v / 262144 % 8 + 240)) = .multiple 3 low high ∧
      low.toNat ≤ v / 4096 % 64 + 128 ∧ v / 4096 % 64 + 128 ≤ high.toNat := by
  rw [lead_ofNat (by omega), if_neg (by omega), if_neg (by omega), if_neg (by omega), if_neg (by omega),
    if_neg (by omega), if_neg (by omega)]
  split_ifs with lowest inside highest
  · exact ⟨_, _, rfl, show 144 ≤ _ by omega, show _ ≤ 191 by omega⟩
  · exact ⟨_, _, rfl, show 128 ≤ _ by omega, show _ ≤ 191 by omega⟩
  · exact ⟨_, _, rfl, show 128 ≤ _ by omega, show _ ≤ 143 by omega⟩
  · omega

end

/-- The bytes of a character are one piece. -/
theorem pieces_char (c : Char) (rest : Bytes) :
    pieces (String.utf8EncodeChar c ++ rest) = .char c (String.utf8EncodeChar c).length :: pieces rest := by
  obtain ⟨v, value⟩ : ∃ v, c.val.toNat = v := ⟨_, rfl⟩
  have valid : v < 0xD800 ∨ 0xDFFF < v ∧ v < 0x110000 := value ▸ c.valid
  have same : Char.ofNat v = c := value ▸ Char.ofNat_toNat c
  have bits (n : Nat) : n % 64 < 64 := Nat.mod_lt n (by decide)
  simp only [String.utf8EncodeChar, value]
  split_ifs with one two three <;> simp only [List.cons_append, List.nil_append, List.length_cons, List.length_nil]
  · have small : v < 256 := by omega
    rw [pieces, lead_ofNat small, if_pos (by omega), UInt8.toNat_ofNat_of_lt' small, same]
  · have small : v / 64 % 32 + 192 < 256 := by omega
    have announced : lead (UInt8.ofNat (v / 64 % 32 + 192)) = .multiple 1 0x80 0xBF := by
      rw [lead_ofNat small, if_neg (by omega), if_neg (by omega), if_pos (by omega)]
    have whole : (v / 64 % 32 + 192) % 32 * 64 + v % 64 = v := by omega
    rw [pieces_two announced (bits v) (Nat.le_add_left 128 _)
      (Nat.add_le_add_right (Nat.le_of_lt_succ (bits v)) 128), UInt8.toNat_ofNat_of_lt' small, whole, same]
  · have small : v / 4096 % 16 + 224 < 256 := by omega
    obtain ⟨low, high, announced, above, below⟩ := lead_three (by omega) three (valid.imp_right And.left)
    have whole : ((v / 4096 % 16 + 224) % 16 * 64 + v / 64 % 64) * 64 + v % 64 = v := by omega
    rw [pieces_three announced (bits _) above below (bits v), UInt8.toNat_ofNat_of_lt' small, whole, same]
  · have small : v / 262144 % 8 + 240 < 256 := by omega
    obtain ⟨low, high, announced, above, below⟩ := lead_four (by omega) (show v < 0x110000 by omega)
    have whole : (((v / 262144 % 8 + 240) % 8 * 64 + v / 4096 % 64) * 64 + v / 64 % 64) * 64 + v % 64 = v := by
      omega
    rw [pieces_four announced (bits _) above below (bits _) (bits v), UInt8.toNat_ofNat_of_lt' small, whole, same]

/-! ### Texts -/

/-- The pieces of a text are its characters. -/
theorem pieces_text (text : Text) :
    pieces (Text.utf8 text) = text.map fun c => .char c (String.utf8EncodeChar c).length := by
  induction text with
  | nil => rfl
  | cons c rest ih => rw [Text.utf8, List.flatMap_cons, pieces_char, ← Text.utf8, ih, List.map_cons]

theorem assemble_chars (index : Nat) (width : Char → Nat) (text : Text) :
    assemble index (text.map fun c => .char c (width c)) = .ok text := by
  induction text generalizing index with
  | nil => rfl
  | cons c rest ih => rw [List.map_cons, assemble, ih, Except.map]

/-- A text is read back from its bytes. -/
@[simp] theorem decode_text (text : Text) : decode (Text.utf8 text) = .ok text := by
  rw [decode, pieces_text, assemble_chars]

/-- Lenient reading of the bytes of a text puts no replacement character into it. -/
@[simp] theorem decodeLeniently_text (text : Text) : decodeLeniently (Text.utf8 text) = text := by
  rw [decodeLeniently, pieces_text, List.map_map]
  exact List.map_id text

end SecureShell.Utf8
