import SeedStream.Numeral

/-!
# Words

The 32-bit words that the generator works on. Arithmetic wraps around; an integer of any size and
sign stands for the word it is congruent to.
-/

namespace SeedStream

/-- A number of 32 bits without a sign. -/
abbrev Word := UInt32

namespace Word

/-- The word that an integer is congruent to. -/
def ofInt (i : Int) : Word :=
  UInt32.ofNat (i % 0x100000000).toNat

/-- The word's bits moved to the left by `k`, those that leave coming back on the right. -/
def rotateLeft (w k : Word) : Word :=
  (w <<< k) ||| (w >>> (32 - k))

/-- The four bytes of a word, the least significant first. -/
def bytes (w : Word) : List UInt8 :=
  [w.toUInt8, (w >>> 8).toUInt8, (w >>> 16).toUInt8, (w >>> 24).toUInt8]

/-- The word of four bytes, the least significant first. -/
def ofBytes (b0 b1 b2 b3 : UInt8) : Word :=
  b0.toUInt32 ||| (b1.toUInt32 <<< 8) ||| (b2.toUInt32 <<< 16) ||| (b3.toUInt32 <<< 24)

/-- A bit of a word, zero or one. -/
def bit (w : Word) (i : Word) : Word :=
  (w >>> i) &&& 1

/-- The number of bits of a word that are one. -/
def ones (w : Word) : Nat :=
  (List.range 32).foldl (fun n i => n + (bit w (UInt32.ofNat i)).toNat) 0

/-- The text of a number of 32 bits: a mark and eight hexadecimal digits. Larger numbers have more
    digits, and a minus sign takes the place of one. -/
def hexText (i : Int) : String :=
  String.ofList ('0' :: 'x' :: Numeral.signedHex 8 i)

/-- The text of a word. -/
def hex (w : Word) : String :=
  hexText w.toNat

theorem toNat_ofInt (i : Int) : (ofInt i).toNat = (i % 0x100000000).toNat := by
  have low := Int.emod_nonneg i (by decide : (0x100000000 : Int) ≠ 0)
  have high := Int.emod_lt_of_pos i (by decide : (0 : Int) < 0x100000000)
  rw [ofInt, UInt32.toNat_ofNat']
  omega

theorem cast_toNat_ofInt (i : Int) : ((ofInt i).toNat : Int) = i % 0x100000000 := by
  rw [toNat_ofInt, Int.toNat_of_nonneg (Int.emod_nonneg i (by decide))]

/-- Two integers stand for one word exactly if they are congruent. -/
theorem ofInt_eq_iff {a b : Int} : ofInt a = ofInt b ↔ a % 0x100000000 = b % 0x100000000 := by
  rw [← UInt32.toNat_inj, toNat_ofInt, toNat_ofInt]
  have lowA := Int.emod_nonneg a (by decide : (0x100000000 : Int) ≠ 0)
  have lowB := Int.emod_nonneg b (by decide : (0x100000000 : Int) ≠ 0)
  omega

theorem ofInt_toNat (w : Word) : ofInt (w.toNat : Int) = w := by
  rw [← UInt32.toNat_inj, toNat_ofInt]
  have := w.toNat_lt
  omega

end Word

end SeedStream
