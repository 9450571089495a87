import SeedStream.Output.Codec

/-!
# Bytes of words

The four bytes of a word and the word of four bytes determine each other, so a row of bytes whose length is a
multiple of four is a row of words and no other row of bytes is (`wordsOfBytes?_eq_some_iff`).
-/

namespace SeedStream

namespace Word

theorem toNat_ofBytes (b0 b1 b2 b3 : UInt8) :
    (ofBytes b0 b1 b2 b3).toNat = b0.toNat + 256 * b1.toNat + 65536 * b2.toNat + 16777216 * b3.toNat := by
  have h0 := b0.toNat_lt
  have h1 := b1.toNat_lt
  have h2 := b2.toNat_lt
  have h3 := b3.toNat_lt
  have place (b : UInt8) (k : Nat) (places : k ≤ 24) : (b.toNat <<< k) % 2 ^ 32 = b.toNat * 2 ^ k := by
    rw [Nat.shiftLeft_eq, Nat.mod_eq_of_lt]
    calc b.toNat * 2 ^ k < 2 ^ 8 * 2 ^ k := Nat.mul_lt_mul_of_pos_right b.toNat_lt (Nat.two_pow_pos k)
      _ = 2 ^ (8 + k) := (Nat.pow_add ..).symm
      _ ≤ 2 ^ 32 := Nat.pow_le_pow_right (by decide) (by omega)
  -- Each further byte lies above all bits that are there.
  have above (a b k : Nat) (small : a < 2 ^ k) : a ||| b * 2 ^ k = a + b * 2 ^ k := by
    rw [← Nat.shiftLeft_eq, Nat.or_comm, ← Nat.shiftLeft_add_eq_or_of_lt small, Nat.add_comm]
  have shift8 : (8 : UInt32).toNat % 32 = 8 := rfl
  have shift16 : (16 : UInt32).toNat % 32 = 16 := rfl
  have shift24 : (24 : UInt32).toNat % 32 = 24 := rfl
  rw [ofBytes, UInt32.toNat_or, UInt32.toNat_or, UInt32.toNat_or, UInt32.toNat_shiftLeft, UInt32.toNat_shiftLeft,
    UInt32.toNat_shiftLeft, UInt8.toNat_toUInt32, UInt8.toNat_toUInt32, UInt8.toNat_toUInt32, UInt8.toNat_toUInt32,
    shift8, shift16, shift24, place b1 8 (by decide), place b2 16 (by decide), place b3 24 (by decide),
    above _ _ 8 h0, above _ _ 16 (by omega), above _ _ 24 (by omega)]
  omega

theorem toNat_bytes (w : Word) :
    w.bytes.map UInt8.toNat = [w.toNat % 256, w.toNat / 256 % 256, w.toNat / 65536 % 256, w.toNat / 16777216 % 256] := by
  have shift8 : (8 : UInt32).toNat % 32 = 8 := rfl
  have shift16 : (16 : UInt32).toNat % 32 = 16 := rfl
  have shift24 : (24 : UInt32).toNat % 32 = 24 := rfl
  rw [bytes]
  simp only [List.map_cons, List.map_nil, UInt32.toNat_toUInt8, UInt32.toNat_shiftRight, shift8, shift16, shift24,
    Nat.shiftRight_eq_div_pow]

theorem ofBytes_bytes (w : Word) :
    ofBytes w.toUInt8 (w >>> 8).toUInt8 (w >>> 16).toUInt8 (w >>> 24).toUInt8 = w := by
  have numbers := toNat_bytes w
  have small := w.toNat_lt
  simp only [bytes, List.map_cons, List.map_nil, List.cons.injEq, and_true] at numbers
  rw [← UInt32.toNat_inj, toNat_ofBytes]
  omega

theorem bytes_ofBytes (b0 b1 b2 b3 : UInt8) : (ofBytes b0 b1 b2 b3).bytes = [b0, b1, b2, b3] := by
  have h0 := b0.toNat_lt
  have h1 := b1.toNat_lt
  have h2 := b2.toNat_lt
  have h3 := b3.toNat_lt
  have same : (ofBytes b0 b1 b2 b3).bytes.map UInt8.toNat = [b0, b1, b2, b3].map UInt8.toNat := by
    rw [toNat_bytes, toNat_ofBytes]
    simp only [List.map_cons, List.map_nil, List.cons.injEq, and_true]
    omega
  exact (List.map_inj_right fun _ _ => UInt8.toNat_inj.mp).mp same

/-- The bytes of a word have its number, the least significant first. -/
theorem bytesNumber_bytes (w : Word) : ItemType.bytesNumber w.bytes = w.toNat := by
  have numbers := toNat_bytes w
  have small := w.toNat_lt
  simp only [bytes, List.map_cons, List.map_nil, List.cons.injEq, and_true] at numbers
  simp only [bytes, ItemType.bytesNumber]
  omega

end Word

namespace Output

/-- The words of a row of bytes are those whose bytes make the row. -/
theorem wordsOfBytes?_eq_some_iff {bytes : List UInt8} {ws : List Word} :
    wordsOfBytes? bytes = some ws ↔ ws.flatMap Word.bytes = bytes := by
  constructor
  · intro read
    fun_induction wordsOfBytes? bytes generalizing ws with
    | case1 =>
      cases read
      rfl
    | case2 b0 b1 b2 b3 rest ih =>
      obtain ⟨later, found, rfl⟩ := Option.map_eq_some_iff.mp read
      rw [List.flatMap_cons, ih found, Word.bytes_ofBytes]
      rfl
    | case3 => cases read
  · rintro rfl
    induction ws with
    | nil => rfl
    | cons w rest ih =>
      rw [List.flatMap_cons, Word.bytes]
      change (wordsOfBytes? (rest.flatMap Word.bytes)).map _ = _
      rw [ih, Option.map_some, Word.ofBytes_bytes]

/-- Bytes are words exactly if their number is a multiple of four. -/
theorem isSome_wordsOfBytes? (bytes : List UInt8) : (wordsOfBytes? bytes).isSome ↔ bytes.length % 4 = 0 := by
  fun_induction wordsOfBytes? bytes with
  | case1 => exact iff_of_true rfl rfl
  | case2 b0 b1 b2 b3 rest ih =>
    rw [Option.isSome_map, ih]
    simp only [List.length_cons]
    omega
  | case3 bytes empty four =>
    refine iff_of_false Bool.false_ne_true fun multiple => ?_
    match bytes with
    | [] => exact empty rfl
    | [_] | [_, _] | [_, _, _] => cases multiple
    | b0 :: b1 :: b2 :: b3 :: rest => exact four b0 b1 b2 b3 rest rfl

end Output

end SeedStream
