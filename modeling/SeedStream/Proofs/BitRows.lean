import Mathlib.Algebra.Ring.Nat
import SeedStream.Digest
import SeedStream.Proofs.ByteFiles

/-!
# Rows of bits

Numbers and rows of bytes as rows of bits, the most significant bit first. A row that is cut between two bytes is cut
between their bits (`take_ofBytes`, `drop_ofBytes`), and the bytes of a word or of a length, the most significant
first, have the bits of the number (`ofBytes_wordBytes`, `ofBytes_lengthBytes`).
-/

namespace SeedStream

/-- A row of bits. -/
abbrev BitRow := List Bool

namespace BitRow

/-- The low bits of a number, so many as asked for, the most significant first. -/
def ofNat : Nat → Nat → BitRow
  | 0, _ => []
  | width + 1, n => n.testBit width :: ofNat width n

/-- The number whose bits are given, the most significant first. -/
def toNat : BitRow → Nat
  | [] => 0
  | b :: rest => b.toNat * 2 ^ rest.length + toNat rest

/-- The bits of a row of bytes. -/
def ofBytes (bytes : List UInt8) : BitRow :=
  bytes.flatMap fun b => ofNat 8 b.toNat

/-! ## Bits of numbers -/

@[simp] theorem length_ofNat (width n : Nat) : (ofNat width n).length = width := by
  induction width with
  | zero => rfl
  | succ width ih => rw [ofNat, List.length_cons, ih]

theorem ofNat_add (high low n : Nat) : ofNat (high + low) n = ofNat high (n / 2 ^ low) ++ ofNat low n := by
  induction high with
  | zero => rw [Nat.zero_add, ofNat, List.nil_append]
  | succ high ih =>
    rw [Nat.succ_add, ofNat, ofNat, ih, List.cons_append, Nat.testBit_div_two_pow]

/-- Bits that are not asked for do not count. -/
theorem ofNat_mod {width k : Nat} (inside : width ≤ k) (n : Nat) : ofNat width (n % 2 ^ k) = ofNat width n := by
  induction width with
  | zero => rfl
  | succ width ih =>
    rw [ofNat, ofNat, ih (Nat.le_of_succ_le inside), Nat.testBit_mod_two_pow]
    simp [Nat.lt_of_succ_le inside]

theorem toNat_append (a b : BitRow) : toNat (a ++ b) = toNat a * 2 ^ b.length + toNat b := by
  induction a with
  | nil => rw [List.nil_append, toNat, Nat.zero_mul, Nat.zero_add]
  | cons c rest ih =>
    rw [List.cons_append, toNat, toNat, ih, List.length_append, Nat.pow_add, Nat.add_mul, Nat.mul_assoc, Nat.add_assoc]

theorem toNat_ofNat (width n : Nat) : toNat (ofNat width n) = n % 2 ^ width := by
  induction width with
  | zero => rw [ofNat, toNat, Nat.pow_zero, Nat.mod_one]
  | succ width ih => rw [ofNat, toNat, ih, length_ofNat, Nat.toNat_testBit, Nat.mod_pow_succ, Nat.add_comm, Nat.mul_comm]

/-- The bits of a number byte by byte. -/
theorem ofNat_eq_flatMap (k n : Nat) :
    ofNat (8 * k) n = (List.range k).flatMap fun i => ofNat 8 (n / 256 ^ (k - 1 - i)) := by
  induction k with
  | zero => rfl
  | succ k ih =>
    have shorter (i : Nat) : k + 1 - 1 - (i + 1) = k - 1 - i := by omega
    rw [Nat.mul_succ, Nat.add_comm, ofNat_add, ih, List.range_succ_eq_map, List.flatMap_cons, List.flatMap_map,
      Nat.pow_mul]
    simp only [shorter]
    rfl

/-! ## Bits of bytes -/

theorem ofBytes_cons (b : UInt8) (bytes : List UInt8) : ofBytes (b :: bytes) = ofNat 8 b.toNat ++ ofBytes bytes :=
  List.flatMap_cons

theorem ofBytes_append (a b : List UInt8) : ofBytes (a ++ b) = ofBytes a ++ ofBytes b :=
  List.flatMap_append

@[simp] theorem length_ofBytes (bytes : List UInt8) : (ofBytes bytes).length = 8 * bytes.length := by
  induction bytes with
  | nil => rfl
  | cons b rest ih => rw [ofBytes_cons, List.length_append, length_ofNat, ih, List.length_cons, Nat.mul_succ, Nat.add_comm]

theorem take_ofBytes (k : Nat) (bytes : List UInt8) : (ofBytes bytes).take (8 * k) = ofBytes (bytes.take k) := by
  induction k generalizing bytes with
  | zero => rfl
  | succ k ih =>
    cases bytes with
    | nil => rfl
    | cons b rest =>
      have front : 8 * (k + 1) = (ofNat 8 b.toNat).length + 8 * k := by rw [length_ofNat, Nat.mul_succ, Nat.add_comm]
      rw [ofBytes_cons, List.take_succ_cons, ofBytes_cons, ← ih, front, List.take_length_add_append]

theorem drop_ofBytes (k : Nat) (bytes : List UInt8) : (ofBytes bytes).drop (8 * k) = ofBytes (bytes.drop k) := by
  induction k generalizing bytes with
  | zero => rfl
  | succ k ih =>
    cases bytes with
    | nil => rfl
    | cons b rest =>
      have front : 8 * (k + 1) = (ofNat 8 b.toNat).length + 8 * k := by rw [length_ofNat, Nat.mul_succ, Nat.add_comm]
      rw [ofBytes_cons, List.drop_succ_cons, ← ih, front, List.drop_length_add_append]

/-- Bytes that are the places of a number to the base 256 have its bits. -/
theorem ofBytes_map_div (k n : Nat) :
    ofBytes ((List.range k).map fun i => UInt8.ofNat (n / 256 ^ (k - 1 - i))) = ofNat (8 * k) n := by
  rw [ofBytes, List.flatMap_map, ofNat_eq_flatMap]
  congr 1
  funext i
  rw [UInt8.toNat_ofNat', ofNat_mod (Nat.le_refl 8)]

theorem ofBytes_lengthBytes (n : Nat) : ofBytes (Digest.lengthBytes n) = ofNat 64 n :=
  ofBytes_map_div 8 n

theorem ofBytes_wordBytes (w : Word) : ofBytes (Digest.wordBytes w) = ofNat 32 w.toNat := by
  have places : Digest.wordBytes w = (List.range 4).map fun i => UInt8.ofNat (w.toNat / 256 ^ (4 - 1 - i)) := by
    apply (List.map_inj_right fun _ _ => UInt8.toNat_inj.mp).mp
    rw [Digest.wordBytes, List.map_reverse, Word.toNat_bytes]
    simp [List.range_succ, UInt8.toNat_ofNat']
  rw [places, ofBytes_map_div]

theorem toNat_bigEndian (b0 b1 b2 b3 : UInt8) :
    (Digest.bigEndian b0 b1 b2 b3).toNat = toNat (ofBytes [b0, b1, b2, b3]) := by
  have value (b : UInt8) (rest : List UInt8) :
      toNat (ofBytes (b :: rest)) = b.toNat * 2 ^ (8 * rest.length) + toNat (ofBytes rest) := by
    rw [ofBytes_cons, toNat_append, toNat_ofNat, length_ofBytes, Nat.mod_eq_of_lt b.toNat_lt]
  have empty : toNat (ofBytes []) = 0 := rfl
  rw [Digest.bigEndian, Word.toNat_ofBytes, value, value, value, value, empty]
  simp only [List.length_cons, List.length_nil]
  omega

end BitRow

end SeedStream
