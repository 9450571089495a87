import SeedStream.Double.Binary
import SeedStream.Word

/-!
# Fractions

A fraction from zero up to one, on the grid of multiples of `2 ^ -53`. Two words make one: the high
27 bits of the first and the high 26 bits of the second. Every point of the grid is a double.
-/

namespace SeedStream

/-- The fraction `numerator / 2 ^ 53`. -/
structure Fraction where
  numerator : Nat
  lt : numerator < 0x20000000000000

namespace Fraction

theorem high_lt (a : Word) : (a >>> 5).toNat < 0x8000000 := by
  have := a.toNat_lt
  simp [Nat.shiftRight_eq_div_pow]
  omega

theorem low_lt (b : Word) : (b >>> 6).toNat < 0x4000000 := by
  have := b.toNat_lt
  simp [Nat.shiftRight_eq_div_pow]
  omega

/-- The fraction that two words make. -/
def ofWords (a b : Word) : Fraction where
  numerator := (a >>> 5).toNat * 0x4000000 + (b >>> 6).toNat
  lt := by
    have := high_lt a
    have := low_lt b
    omega

/-- The double that the fraction is. -/
def toDouble (f : Fraction) : Float :=
  Double.ofRatio false f.numerator 0x20000000000000

end Fraction

end SeedStream
