/-
Module: MonitorSplit.Proofs.Text.Utf8
Purpose: A text is read back from its UTF-8 octets.
Main exports:
  Utf8.encode_eq_flatMap, Utf8.firstPiece_encoded, Utf8.decode_encode
-/
import Mathlib
import MonitorSplit.Text.Utf8

namespace MonitorSplit.Text.Utf8

/-!
### Octets of a text
-/

/-- The octets of an array are read off one by one from a position on. -/
theorem toList_loop_eq (octets : ByteArray) (position : Nat) (read : List UInt8) :
    ByteArray.toList.loop octets position read =
      read.reverse ++ octets.data.toList.drop position := by
  fun_induction ByteArray.toList.loop octets position read with
  | case1 position read more inductionHypothesis =>
      have inside : position < octets.data.toList.length := by simpa using more
      rw [inductionHypothesis, List.drop_eq_getElem_cons inside]
      simp [ByteArray.get!, more]
  | case2 position read done =>
      rw [List.drop_eq_nil_of_le (by simpa using Nat.le_of_not_lt done), List.append_nil]

/-- The octets of a text are those of its characters one after the other. -/
theorem encode_eq_flatMap (text : String) :
    encode text = text.toList.flatMap String.utf8EncodeChar := by
  conv_lhs => rw [← String.ofList_toList (s := text)]
  rw [encode, String.toUTF8_eq_toByteArray, String.toByteArray_ofList, ByteArray.toList,
    toList_loop_eq, List.reverse_nil, List.nil_append, List.drop_zero, List.utf8Encode,
    List.toList_data_toByteArray]

/-!
### Characters

The number of octets of a character tells in which range its code is.  Each range has its own
leading octets, so the piece that begins with one is the character again.
-/

theorem toNat_ofNat_of_lt {number : Nat} (isOctet : number < 256) :
    (UInt8.ofNat number).toNat = number := by
  rw [UInt8.toNat_ofNat', Nat.mod_eq_of_lt isOctet]

/-- An octet in its range is taken into the piece. -/
theorem completePiece_cons {code following missing low high next : Nat} (isOctet : next < 256)
    (within : low ≤ next ∧ next ≤ high) (rest : List UInt8) :
    completePiece code following (missing + 1) low high (UInt8.ofNat next :: rest) =
      completePiece (code * 64 + (next - 0x80)) (following + 1) missing 0x80 0xBF rest := by
  rw [completePiece, toNat_ofNat_of_lt isOctet, if_pos (by simpa using within)]

/-- The octets of a character are a piece of their own, whatever comes after them. -/
theorem firstPiece_encoded (c : Char) :
    ∃ octet others, String.utf8EncodeChar c = octet :: others ∧
      ∀ rest, firstPiece octet (others ++ rest) = .scalar c others.length := by
  have character {code : Nat} (same : code = c.val.toNat) : Char.ofNat code = c := by
    rw [same]
    exact Char.ofNat_toNat c
  have scalar : c.val.toNat < 0xD800 ∨ 0xDFFF < c.val.toNat ∧ c.val.toNat < 0x110000 := c.valid
  unfold String.utf8EncodeChar
  dsimp only
  generalize c.val.toNat = code at character scalar
  split
  · refine ⟨_, [], rfl, fun rest => ?_⟩
    have octet : code < 256 := by omega
    simp only [firstPiece, toNat_ofNat_of_lt octet, show code < 0x80 by omega, if_true]
    rw [character rfl]
    rfl
  split
  · refine ⟨_, [_], rfl, fun rest => ?_⟩
    have lead : code / 64 % 32 + 192 < 256 := by omega
    have next : code % 64 + 128 < 256 := by omega
    simp only [firstPiece, toNat_ofNat_of_lt lead]
    rw [if_neg (by omega), if_neg (by omega), if_pos (by omega), List.singleton_append,
      completePiece_cons next (by omega), completePiece, character (by omega)]
    rfl
  split
  · refine ⟨_, [_, _], rfl, fun rest => ?_⟩
    have lead : code / 4096 % 16 + 224 < 256 := by omega
    have next : code / 64 % 64 + 128 < 256 := by omega
    have last : code % 64 + 128 < 256 := by omega
    -- the second octet is above that of overlong forms and below that of surrogates
    have within : (if code / 4096 % 16 + 224 = 0xE0 then 0xA0 else 0x80) ≤ code / 64 % 64 + 128 ∧
        code / 64 % 64 + 128 ≤ (if code / 4096 % 16 + 224 = 0xED then 0x9F else 0xBF) := by
      constructor <;> split <;> omega
    simp only [firstPiece, toNat_ofNat_of_lt lead]
    rw [if_neg (by omega), if_neg (by omega), if_neg (by omega), if_pos (by omega),
      List.cons_append, List.singleton_append, completePiece_cons next within,
      completePiece_cons last (by omega), completePiece, character (by omega)]
    rfl
  · refine ⟨_, [_, _, _], rfl, fun rest => ?_⟩
    have lead : code / 262144 % 8 + 240 < 256 := by omega
    have next : code / 4096 % 64 + 128 < 256 := by omega
    have third : code / 64 % 64 + 128 < 256 := by omega
    have last : code % 64 + 128 < 256 := by omega
    have within : (if code / 262144 % 8 + 240 = 0xF0 then 0x90 else 0x80) ≤ code / 4096 % 64 + 128 ∧
        code / 4096 % 64 + 128 ≤ (if code / 262144 % 8 + 240 = 0xF4 then 0x8F else 0xBF) := by
      constructor <;> split <;> omega
    simp only [firstPiece, toNat_ofNat_of_lt lead]
    rw [if_neg (by omega), if_neg (by omega), if_neg (by omega), if_neg (by omega),
      if_pos (by omega), List.cons_append, List.cons_append, List.singleton_append,
      completePiece_cons next within, completePiece_cons third (by omega),
      completePiece_cons last (by omega), completePiece, character (by omega)]
    rfl

/-!
### Texts
-/

/-- The pieces of encoded characters are these characters, wherever they begin. -/
theorem decodeFrom_flatMap (characters : List Char) (position : Nat) :
    decodeFrom position (characters.flatMap String.utf8EncodeChar) = .ok characters := by
  induction characters generalizing position with
  | nil => rw [List.flatMap_nil, decodeFrom]
  | cons c characters inductionHypothesis =>
      obtain ⟨octet, others, encoded, piece⟩ := firstPiece_encoded c
      rw [List.flatMap_cons, encoded, List.cons_append, decodeFrom, piece]
      dsimp only
      rw [List.drop_left, inductionHypothesis]
      rfl

/-- A text is read back from its octets. -/
theorem decode_encode (text : String) : decode (encode text) = .ok text := by
  rw [decode, encode_eq_flatMap, decodeFrom_flatMap]
  exact congrArg Except.ok String.ofList_toList

end MonitorSplit.Text.Utf8
