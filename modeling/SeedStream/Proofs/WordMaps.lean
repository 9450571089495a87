import Mathlib.Data.Int.ModEq
import Mathlib.Data.LawfulXor.Basic
import SeedStream.Seed

/-!
# Maps of words

The maps that scramble words, one by one: a rotation, a product with an odd factor, and a word folded
with its own high bits. Rotations and shifts go through exclusive or, and none of the maps ever takes
two words to one.
-/

namespace SeedStream

namespace Word

theorem eq_of_testBit {a b : Word} (bits : ∀ i < 32, a.toNat.testBit i = b.toNat.testBit i) : a = b := by
  apply UInt32.toNat_inj.mp
  apply Nat.eq_of_testBit_eq
  intro i
  by_cases inside : i < 32
  · exact bits i inside
  · have beyond : 2 ^ 32 ≤ 2 ^ i := Nat.pow_le_pow_right (by decide) (by omega)
    rw [Nat.testBit_lt_two_pow (Nat.lt_of_lt_of_le a.toNat_lt beyond),
      Nat.testBit_lt_two_pow (Nat.lt_of_lt_of_le b.toNat_lt beyond)]

theorem ofInt_eq_iff_modEq {a b : Int} : ofInt a = ofInt b ↔ a ≡ b [ZMOD 2 ^ 32] :=
  ofInt_eq_iff

/-! ## Rotation -/

/-- A bit of a rotated word: the high bits come back at the low end. -/
theorem testBit_rotateLeft (w : Word) {k : Word} (moves : 0 < k.toNat) (short : k.toNat < 32) {i : Nat}
    (inside : i < 32) :
    (rotateLeft w k).toNat.testBit i =
      if i < k.toNat then w.toNat.testBit (i + (32 - k.toNat)) else w.toNat.testBit (i - k.toNat) := by
  have back : (32 - k).toNat % 32 = 32 - k.toNat := by
    rw [UInt32.toNat_sub_of_le _ _ (UInt32.le_iff_toNat_le.mpr (Nat.le_of_lt short))]
    exact Nat.mod_eq_of_lt (by simp; omega)
  simp only [rotateLeft, UInt32.toNat_or, UInt32.toNat_shiftLeft, UInt32.toNat_shiftRight, back,
    Nat.mod_eq_of_lt short, Nat.testBit_or, Nat.testBit_mod_two_pow, Nat.testBit_shiftLeft,
    Nat.testBit_shiftRight]
  by_cases low : i < k.toNat
  · simp [low, inside, Nat.add_comm, Nat.not_le.mpr low]
  · have beyond : w.toNat.testBit (32 - k.toNat + i) = false :=
      Nat.testBit_lt_two_pow (Nat.lt_of_lt_of_le w.toNat_lt (Nat.pow_le_pow_right (by decide) (by omega)))
    simp [low, inside, beyond, Nat.not_lt.mp low]

theorem rotateLeft_xor (a b : Word) {k : Word} (moves : 0 < k.toNat) (short : k.toNat < 32) :
    rotateLeft (a ^^^ b) k = rotateLeft a k ^^^ rotateLeft b k := by
  apply eq_of_testBit
  intro i inside
  rw [UInt32.toNat_xor, Nat.testBit_xor]
  simp only [testBit_rotateLeft _ moves short inside, UInt32.toNat_xor, Nat.testBit_xor]
  split <;> rfl

/-- A rotation on to the full turn brings the word back. -/
theorem rotateLeft_rotateLeft (w : Word) {j k : Word} (moves : 0 < k.toNat) (short : k.toNat < 32)
    (turn : j.toNat + k.toNat = 32) : rotateLeft (rotateLeft w k) j = w := by
  apply eq_of_testBit
  intro i inside
  rw [testBit_rotateLeft _ (by omega) (by omega) inside]
  by_cases low : i < j.toNat
  · rw [if_pos low, testBit_rotateLeft _ moves short (by omega), if_neg (by omega)]
    congr 1
    omega
  · rw [if_neg low, testBit_rotateLeft _ moves short (by omega), if_pos (by omega)]
    congr 1
    omega

theorem rotateLeft_injective (k : Word) (moves : 0 < k.toNat) (short : k.toNat < 32) :
    Function.Injective (rotateLeft · k) := by
  have turn : (32 - k).toNat + k.toNat = 32 := by
    rw [UInt32.toNat_sub_of_le _ _ (UInt32.le_iff_toNat_le.mpr (Nat.le_of_lt short))]
    exact Nat.sub_add_cancel (Nat.le_of_lt short)
  intro a b same
  have back : rotateLeft (rotateLeft a k) (32 - k) = rotateLeft (rotateLeft b k) (32 - k) :=
    congrArg (rotateLeft · (32 - k)) same
  rwa [rotateLeft_rotateLeft a moves short turn, rotateLeft_rotateLeft b moves short turn] at back

/-! ## Products -/

theorem mul_injective (factor inverse : Word) (one : factor * inverse = 1) :
    Function.Injective (· * factor) := by
  intro a b same
  have undone : a * factor * inverse = b * factor * inverse := congrArg (· * inverse) same
  rwa [UInt32.mul_assoc, UInt32.mul_assoc, one, UInt32.mul_one, UInt32.mul_one] at undone

/-- A word that is its own high bits is zero. -/
theorem eq_zero_of_shiftRight {w k : Word} (moves : 0 < k.toNat) (short : k.toNat < 32) (same : w >>> k = w) :
    w = 0 := by
  have value : w.toNat / 2 ^ k.toNat = w.toNat := by
    rw [← Nat.shiftRight_eq_div_pow]
    simpa [Nat.mod_eq_of_lt short] using congrArg UInt32.toNat same
  apply UInt32.toNat_inj.mp
  by_contra positive
  have smaller := Nat.div_lt_self (Nat.pos_of_ne_zero positive) (Nat.one_lt_two_pow (Nat.ne_of_gt moves))
  omega

end Word

namespace Seed

/-! ## Mixing a seed -/

/-- Folding takes no two words to one: what two such words differ by is its own high bits. -/
theorem fold_injective (k : Word) (moves : 0 < k.toNat) (short : k.toNat < 32) : Function.Injective (fold k) := by
  intro a b same
  have difference : (a ^^^ b) >>> k = a ^^^ b := calc
    (a ^^^ b) >>> k = a >>> k ^^^ b >>> k := UInt32.shiftRight_xor
    _ = (a ^^^ b) ^^^ ((a ^^^ b) ^^^ (a >>> k ^^^ b >>> k)) := (xor_cancel_left _ _).symm
    _ = (a ^^^ b) ^^^ (fold k a ^^^ fold k b) := by
      rw [fold, fold]
      ac_rfl
    _ = a ^^^ b := by rw [same, UInt32.xor_self, UInt32.xor_zero]
  exact UInt32.xor_eq_zero_iff.mp (Word.eq_zero_of_shiftRight moves short difference)

theorem mix_injective : Function.Injective mix := by
  have first := fold_injective 15 (by decide) (by decide)
  have second := fold_injective 13 (by decide) (by decide)
  have third := fold_injective 16 (by decide) (by decide)
  have firstFactor := Word.mul_injective 0x85ebca6b 0xa5cb9243 (by decide)
  have secondFactor := Word.mul_injective 0xc2b2ae35 0x7ed1b41d (by decide)
  exact third.comp (secondFactor.comp (second.comp (firstFactor.comp first)))

theorem slot_inj {a b k : Word} : slot a k = slot b k ↔ a = b := by
  constructor
  · intro same
    exact (UInt32.add_left_inj _).mp (mix_injective same)
  · rintro rfl
    rfl

theorem slot_inj_distance {a j k : Word} : slot a j = slot a k ↔ j = k := by
  have odd := Word.mul_injective distance 0x144cbc89 (by decide)
  constructor
  · intro same
    exact odd ((UInt32.add_right_inj a).mp (mix_injective same))
  · rintro rfl
    rfl

end Seed

namespace State

theorem output_eq_iff {s t : State} : s.output = t.output ↔ s.s1 = t.s1 := by
  have five := Word.mul_injective 5 0xcccccccd (by decide)
  have turn := Word.rotateLeft_injective 7 (by decide) (by decide)
  have nine := Word.mul_injective 9 0x38e38e39 (by decide)
  constructor
  · intro same
    exact five (turn (nine same))
  · intro same
    rw [output, output, same]

end State

end SeedStream
