import Mathlib
import SeedStream.Double.Binary

/-!
# Exact doubles

A sum, a product or a quotient of doubles is rounded to a double. Where the exact result is a double already, rounding
leaves it alone: the result stands for the very number (`Stands.mul`, `Stands.add`, `stands_toFloat`, `stands_ofRatio`),
and there is only one double that does (`Stands.unique`). Only numbers without a minus sign are looked at.

A double other than zero has one mantissa and one exponent (`Canonical`), to which every way to write its number as a
multiple of a power of two is rounded (`round_exact`).
-/

namespace SeedStream.Double

open Float.Model (Format totalExponent UnpackedFloat)
open Float.Model.UnpackedFloat

/-- A double stands for a number and has no minus sign. -/
def Stands (x : Float) (q : ℚ) : Prop :=
  ∃ (m : Nat) (e : Int), parts x = .finite false m e ∧ (m : ℚ) * 2 ^ e = q

/-- A number without a minus sign that is that of a double. -/
def IsDouble (q : ℚ) : Prop :=
  ∃ (n : Nat) (e : Int), n < 2 ^ 53 ∧ -1074 ≤ e ∧ e ≤ 971 ∧ (n : ℚ) * 2 ^ e = q

/-- A mantissa and an exponent as a double holds them: the mantissa fills its bits, or the exponent is the least. -/
structure Canonical (m : Nat) (t : Int) : Prop where
  short : m < 2 ^ 53
  least : -1074 ≤ t
  most : t ≤ 971
  full : 2 ^ 52 ≤ m ∨ t = -1074

/-! ## One number in several ways -/

/-- Of two ways to write a number, the one with the smaller exponent has the larger mantissa. -/
theorem mantissa_eq {m n : Nat} {e t : Int} (below : e ≤ t) (same : (m : ℚ) * 2 ^ e = n * 2 ^ t) :
    m = n * 2 ^ (t - e).toNat := by
  have moved : (2 : ℚ) ^ t = 2 ^ (t - e).toNat * 2 ^ e := by
    rw [← zpow_natCast, Int.toNat_of_nonneg (Int.sub_nonneg_of_le below), ← zpow_add₀ two_ne_zero, Int.sub_add_cancel]
  rw [moved, ← mul_assoc] at same
  have cast := mul_right_cancel₀ (zpow_ne_zero e two_ne_zero) same
  exact_mod_cast cast

theorem mantissa_pos {m n : Nat} {e t : Int} (positive : 0 < m) (same : (m : ℚ) * 2 ^ e = n * 2 ^ t) : 0 < n := by
  have value : (0 : ℚ) < m * 2 ^ e := mul_pos (Nat.cast_pos.mpr positive) (zpow_pos two_pos e)
  rw [same] at value
  exact Nat.cast_pos.mp (pos_of_mul_pos_left value (zpow_pos two_pos t).le)

theorem log2_mul_pow {n : Nat} (positive : 0 < n) (k : Nat) : (n * 2 ^ k).log2 = n.log2 + k := by
  obtain ⟨low, high⟩ := (Nat.log2_eq_iff positive.ne').mp rfl
  refine (Nat.log2_eq_iff (Nat.mul_pos positive (Nat.two_pow_pos k)).ne').mpr ⟨?_, ?_⟩
  · rw [Nat.pow_add]
    exact Nat.mul_le_mul_right _ low
  · rw [Nat.add_right_comm, Nat.pow_add]
    exact Nat.mul_lt_mul_of_pos_right high (Nat.two_pow_pos k)

/-- The place of the first bit does not depend on the way a number is written. -/
theorem totalExponent_eq {m n : Nat} {e t : Int} (positive : 0 < n) (same : (m : ℚ) * 2 ^ e = n * 2 ^ t) :
    totalExponent m e = totalExponent n t := by
  rw [totalExponent, totalExponent]
  rcases le_total e t with below | above
  · rw [mantissa_eq below same, log2_mul_pow positive]
    omega
  · rw [mantissa_eq above same.symm, log2_mul_pow (mantissa_pos positive same.symm)]
    omega

namespace Canonical

variable {m n : Nat} {e t : Int}

theorem log2_le (canonical : Canonical m t) : m.log2 ≤ 52 := by
  by_cases zero : m = 0
  · simp [zero]
  · exact Nat.le_of_lt_succ ((Nat.log2_lt zero).mpr canonical.short)

theorem target (canonical : Canonical m t) : Format.binary64.targetExponent (totalExponent m t) = t := by
  have most := canonical.log2_le
  have least := canonical.least
  simp only [Format.targetExponent, totalExponent, Format.mantissaBits, Format.minExponent]
  rcases canonical.full with full | small
  · have first : 52 ≤ m.log2 := (Nat.le_log2 (by omega)).mpr full
    omega
  · omega

/-- A number is written in one canonical way only. -/
theorem unique (first : Canonical m e) (second : Canonical n t) (same : (m : ℚ) * 2 ^ e = n * 2 ^ t) :
    m = n ∧ e = t := by
  wlog below : e ≤ t generalizing m n e t
  · obtain ⟨rfl, rfl⟩ := this second first same.symm (by omega)
    exact ⟨rfl, rfl⟩
  have mantissa := mantissa_eq below same
  rcases Int.lt_or_eq_of_le below with less | rfl
  · -- the exponent could be smaller, and so the mantissa fills its bits
    have full : 2 ^ 52 ≤ n := by
      have := first.least
      have := second.full
      omega
    have double : 2 ^ 1 ≤ 2 ^ (t - e).toNat := Nat.pow_le_pow_right (by decide) (by omega)
    have short := first.short
    have long := Nat.mul_le_mul full double
    omega
  · simpa using mantissa

end Canonical

theorem IsDouble.canonical {q : ℚ} (double : IsDouble q) : ∃ m t, Canonical m t ∧ (m : ℚ) * 2 ^ t = q := by
  obtain ⟨n, e, short, least, most, rfl⟩ := double
  by_cases zero : n = 0
  · exact ⟨0, -1074, ⟨by decide, by decide, by decide, .inr rfl⟩, by simp [zero]⟩
  · -- the mantissa is moved up as far as its bits and the least exponent admit
    have positive := Nat.pos_of_ne_zero zero
    have first : n.log2 ≤ 52 := Nat.le_of_lt_succ ((Nat.log2_lt zero).mpr short)
    obtain ⟨k, up⟩ : ∃ k : Nat, (k : Int) = min (52 - (n.log2 : Int)) (e + 1074) :=
      ⟨(min (52 - (n.log2 : Int)) (e + 1074)).toNat, by omega⟩
    have place := log2_mul_pow positive k
    have moved : 0 < n * 2 ^ k := Nat.mul_pos positive (Nat.two_pow_pos k)
    refine ⟨n * 2 ^ k, e - k, ⟨(Nat.log2_lt moved.ne').mp (by omega), by omega, by omega, ?_⟩, ?_⟩
    · by_cases filled : n.log2 + k = 52
      · exact .inl ((Nat.le_log2 moved.ne').mp (by omega))
      · exact .inr (by omega)
    · rw [Nat.cast_mul, Nat.cast_pow, Nat.cast_ofNat, ← zpow_natCast, mul_assoc, ← zpow_add₀ two_ne_zero,
        add_sub_cancel]

/-! ## Bits -/

/-- The bits of a canonical number. -/
def canonicalBits (m : Nat) (t : Int) : Nat :=
  (t + 1074).toNat * 2 ^ 52 + m

namespace Canonical

variable {m : Nat} {t : Int}

theorem bits_lt (canonical : Canonical m t) : canonicalBits m t < infinityBits := by
  have := canonical.short
  have := canonical.most
  rw [canonicalBits, infinityBits]
  omega

theorem partsOfBits_eq (canonical : Canonical m t) : partsOfBits (canonicalBits m t) = .finite false m t := by
  have short := canonical.short
  have least := canonical.least
  have most := canonical.most
  have positive : (canonicalBits m t / 0x8000000000000000 % 2 == 1) = false := by
    rw [beq_eq_false_iff_ne, canonicalBits]
    omega
  have scale : canonicalBits m t / 0x10000000000000 % 2048 = (t + 1074).toNat + m / 2 ^ 52 := by
    rw [canonicalBits]
    omega
  have fraction : canonicalBits m t % 0x10000000000000 = m % 2 ^ 52 := by
    rw [canonicalBits]
    omega
  simp only [partsOfBits, positive, scale, fraction, Int.ofNat_eq_natCast]
  rw [if_neg (by omega)]
  rcases canonical.full with full | small
  · rw [if_neg (by omega)]
    congr 1 <;> omega
  · by_cases full : 2 ^ 52 ≤ m
    · rw [if_neg (by omega)]
      congr 1 <;> omega
    · rw [if_pos (by omega)]
      congr 1 <;> omega

end Canonical

/-- What a double stands for gives its bits. -/
theorem canonical_of_parts {x : Float} {m : Nat} {e : Int} (same : parts x = .finite false m e) :
    Canonical m e ∧ x.toBits.toNat = canonicalBits m e := by
  have bound := x.toBits.toNat_lt
  rw [parts, partsOfBits] at same
  split at same
  · split at same <;> cases same
  · rw [canonicalBits]
    split at same
    · injection same with positive fraction exponent
      rw [beq_eq_false_iff_ne] at positive
      subst fraction exponent
      exact ⟨⟨by omega, by omega, by omega, .inr rfl⟩, by omega⟩
    · injection same with positive fraction exponent
      rw [beq_eq_false_iff_ne] at positive
      subst fraction exponent
      simp only [Int.ofNat_eq_natCast]
      exact ⟨⟨by omega, by omega, by omega, .inl (by omega)⟩, by omega⟩

theorem Stands.eq {x : Float} {p q : ℚ} (first : Stands x p) (second : Stands x q) : p = q := by
  obtain ⟨m, e, held, rfl⟩ := first
  obtain ⟨n, t, held', rfl⟩ := second
  rw [held] at held'
  injection held' with _ mantissa exponent
  rw [mantissa, exponent]

theorem Stands.toBits {x : Float} {m : Nat} {t : Int} (stands : Stands x (m * 2 ^ t)) (canonical : Canonical m t) :
    x.toBits.toNat = canonicalBits m t := by
  obtain ⟨n, e, held, same⟩ := stands
  obtain ⟨canonical', bits⟩ := canonical_of_parts held
  obtain ⟨rfl, rfl⟩ := canonical'.unique canonical same
  exact bits

/-- One double at most stands for a number. -/
theorem Stands.unique {x y : Float} {q : ℚ} (first : Stands x q) (second : Stands y q) : x = y := by
  obtain ⟨m, e, held, rfl⟩ := first
  obtain ⟨canonical, bits⟩ := canonical_of_parts held
  exact Float.toBits_inj.mp (UInt64.toNat_inj.mp (bits.trans (second.toBits canonical).symm))

/-! ## Packing -/

/-- What an unpacked double stands for. -/
def partsOf : UnpackedFloat → Parts
  | .zero s => .finite (s == .negative) 0 (-1074)
  | .finite s m e _ => .finite (s == .negative) m e
  | .infinity s => .infinite (s == .negative)
  | .notANumber => .nan

theorem parts_eq (x : Float) : parts x = partsOf x.toModel.unpack := by
  let b : BitVec Format.binary64.numBits := x.toBits.toBitVec
  have mantissa : (unpackMantissa b).toNat = b.toNat % 0x10000000000000 := by
    rw [unpackMantissa_def]
    simp
  have scale : (unpackExponent b).toNat = b.toNat / 0x10000000000000 % 2048 := by
    rw [unpackExponent_def]
    simp [Nat.shiftRight_eq_div_pow]
  have sign : (Sign.ofBitVec (unpackSign b) == .negative) = (b.toNat / 0x8000000000000000 % 2 == 1) := by
    have bit (v : BitVec 1) : (Sign.ofBitVec v == .negative) = (v.toNat == 1) := by decide +revert
    rw [bit, unpackSign_def]
    simp [Nat.shiftRight_eq_div_pow]
  have infinite : unpackExponent b = -1#_ ↔ b.toNat / 0x10000000000000 % 2048 = 2047 := by
    rw [← BitVec.toNat_inj, scale]
    rfl
  have least : unpackExponent b = 0#_ ↔ b.toNat / 0x10000000000000 % 2048 = 0 := by
    rw [← BitVec.toNat_inj, scale]
    rfl
  have empty : unpackMantissa b = 0#_ ↔ b.toNat % 0x10000000000000 = 0 := by
    rw [← BitVec.toNat_inj, mantissa]
    rfl
  have whole : (1#1 ++ unpackMantissa b).toNat = 0x10000000000000 + b.toNat % 0x10000000000000 := by
    rw [BitVec.toNat_append, ← mantissa, Nat.shiftLeft_eq, Nat.mul_comm,
      ← Nat.two_pow_add_eq_or_of_lt (unpackMantissa b).isLt]
    rfl
  change partsOfBits b.toNat = partsOf (unpack Format.binary64 b)
  simp only [partsOfBits, unpack, infinite, least, empty, ← sign]
  by_cases top : b.toNat / 0x10000000000000 % 2048 = 2047
  · rw [if_pos top, if_pos top]
    split <;> rfl
  · rw [if_neg top, if_neg top]
    by_cases bottom : b.toNat / 0x10000000000000 % 2048 = 0
    · rw [if_pos bottom, if_pos bottom]
      by_cases zero : b.toNat % 0x10000000000000 = 0
      · rw [dif_pos zero, partsOf, zero]
      · rw [dif_neg zero, partsOf, mantissa, scale, bottom]
        rfl
    · rw [if_neg bottom, if_neg bottom, partsOf, whole, scale]
      rfl

/-- A canonical number other than zero, unpacked. -/
def unpacked (m : Nat) (t : Int) (positive : 0 < m) : UnpackedFloat :=
  .finite .positive m t positive

theorem toNat_pack {m : Nat} {t : Int} (canonical : Canonical m t) (positive : 0 < m) :
    (pack Format.binary64 (unpacked m t positive)).toNat = canonicalBits m t := by
  have short := canonical.short
  have least := canonical.least
  have most := canonical.most
  have biased : (t + Format.binary64.exponentBias + Format.binary64.mantissaBitsWithoutImplicit).toNat =
      (t + 1075).toNat := by
    change (t + 1023 + 52).toNat = _
    omega
  have finite : ¬ 2 ^ Format.binary64.exponentBits ≤ (t + 1075).toNat + 1 := by
    change ¬ 2048 ≤ (t + 1075).toNat + 1
    omega
  have normal : m.log2 + 1 = Format.binary64.mantissaBits ↔ 2 ^ 52 ≤ m := by
    change m.log2 + 1 = 53 ↔ _
    rw [← Nat.le_log2 positive.ne']
    have := canonical.log2_le
    omega
  have fields (e : BitVec 11) (f : BitVec 52) :
      (packComponents Format.binary64 .positive e f).toNat = e.toNat * 2 ^ 52 + f.toNat := by
    change (0#1 ++ e ++ f).toNat = _
    have unsigned : (0#1 ++ e).toNat = e.toNat := by rw [BitVec.toNat_append]; simp
    rw [BitVec.toNat_append, unsigned, Nat.shiftLeft_eq, Nat.mul_comm, ← Nat.two_pow_add_eq_or_of_lt f.isLt]
  simp only [unpacked, pack, biased, normal, if_neg finite, canonicalBits]
  by_cases full : 2 ^ 52 ≤ m
  · rw [if_pos full, fields, BitVec.toNat_ofNat, BitVec.toNat_ofNat]
    omega
  · rw [if_neg full, fields, BitVec.toNat_ofNat, BitVec.toNat_ofNat, canonical.full.resolve_left full]
    omega

theorem stands_pack {m : Nat} {t : Int} (canonical : Canonical m t) (positive : 0 < m) :
    Stands ⟨Float.Model.pack (unpacked m t positive)⟩ (m * 2 ^ t) := by
  refine ⟨m, t, ?_, rfl⟩
  rw [← canonical.partsOfBits_eq, ← toNat_pack canonical positive]
  rfl

theorem stands_zero : Stands ⟨Float.Model.pack (.zero .positive)⟩ 0 :=
  ⟨0, -1074, rfl, by simp⟩

/-- A double that stands for a number holds it in the canonical way. -/
theorem Stands.unpack {x : Float} {q : ℚ} (stands : Stands x q) :
    (q = 0 ∧ x.toModel.unpack = .zero .positive) ∨
      ∃ m t positive, Canonical m t ∧ (m : ℚ) * 2 ^ t = q ∧ x.toModel.unpack = unpacked m t positive := by
  obtain ⟨m, e, same, rfl⟩ := stands
  obtain ⟨canonical, -⟩ := canonical_of_parts same
  rw [parts_eq] at same
  cases held : x.toModel.unpack with
  | zero s =>
    rw [held, partsOf] at same
    injection same with sign mantissa
    subst mantissa
    cases s with
    | negative => cases sign
    | positive => exact .inl ⟨by simp, rfl⟩
  | finite s n t positive =>
    rw [held, partsOf] at same
    injection same with sign mantissa exponent
    subst mantissa exponent
    cases s with
    | negative => cases sign
    | positive => exact .inr ⟨n, t, positive, canonical, rfl, rfl⟩
  | infinity s => rw [held] at same; cases same
  | notANumber => rw [held] at same; cases same

/-! ## Rounding -/

theorem shiftRight_exact (m k : Nat) :
    ExtendedMantissa.ofMantissaAndAccuracy (m * 2 ^ k) .exact >>> k = ExtendedMantissa.ofMantissaAndAccuracy m .exact := by
  induction k generalizing m with
  | zero => rw [Nat.pow_zero, Nat.mul_one]; rfl
  | succ k ih =>
    have twice : m * 2 ^ (k + 1) = m * 2 * 2 ^ k := by rw [Nat.pow_succ']; ac_rfl
    change (ExtendedMantissa.ofMantissaAndAccuracy (m * 2 ^ (k + 1)) .exact >>> k).shiftRightOne = _
    rw [twice, ih]
    simp [ExtendedMantissa.shiftRightOne, ExtendedMantissa.ofMantissaAndAccuracy]

section

variable {m n : Nat} {e t : Int}

theorem shiftToTargetExponent_exact (canonical : Canonical n t) (positive : 0 < n) (below : e ≤ t)
    (same : (m : ℚ) * 2 ^ e = n * 2 ^ t) :
    shiftToTargetExponent Format.binary64 m e .exact = (ExtendedMantissa.ofMantissaAndAccuracy n .exact, t) := by
  have target : Format.binary64.targetExponent (totalExponent m e) = t := by
    rw [totalExponent_eq positive same, canonical.target]
  rw [shiftToTargetExponent, target, shiftToExponent, mantissa_eq below same, shiftRight_exact]
  exact Prod.ext rfl (by simp only; omega)

/-- A number of at least as many bits as its canonical way has is rounded to that. -/
theorem roundWithAccuracy_exact (canonical : Canonical n t) (positive : 0 < n) (below : e ≤ t)
    (same : (m : ℚ) * 2 ^ e = n * 2 ^ t) :
    roundWithAccuracy Format.binary64 .positive m e .exact = unpacked n t positive := by
  have kept : (ExtendedMantissa.ofMantissaAndAccuracy n .exact).roundedMantissa = n := rfl
  rw [roundWithAccuracy, shiftToTargetExponent_exact canonical positive below same]
  simp only [kept, shiftToTargetExponent_exact canonical positive (le_refl t) rfl]
  exact dif_neg positive.ne'

/-- Every way to write a number is rounded to the canonical one. -/
theorem round_exact (canonical : Canonical n t) (positive : 0 < n) (same : (m : ℚ) * 2 ^ e = n * 2 ^ t) :
    UnpackedFloat.round Format.binary64 .positive m e = unpacked n t positive := by
  have target : Format.binary64.targetExponent (totalExponent m e) = t := by
    rw [totalExponent_eq positive same, canonical.target]
  simp only [UnpackedFloat.round, target, decreaseExponent]
  rcases le_total e t with below | above
  · have even : (e - t).toNat = 0 := by omega
    simpa [even] using roundWithAccuracy_exact canonical positive below same
  · have up : e - ((e - t).toNat : Int) = t := by omega
    rw [up, Nat.shiftLeft_eq, ← mantissa_eq above same.symm]
    exact roundWithAccuracy_exact canonical positive (le_refl t) rfl

/-- A natural number of units is made a double without loss. -/
theorem stands_normalize (k : Nat) (e : Int) (double : IsDouble (k * 2 ^ e)) :
    Stands ⟨Float.Model.pack (UnpackedFloat.normalize Format.binary64 k e .positive)⟩ (k * 2 ^ e) := by
  rcases Nat.eq_zero_or_pos k with rfl | positive
  · have zero : ((0 : Nat) : ℚ) * 2 ^ e = 0 := by rw [Nat.cast_zero, zero_mul]
    rw [zero]
    exact stands_zero
  · obtain ⟨m, t, canonical, same⟩ := double.canonical
    have mantissa : 0 < m := mantissa_pos positive same.symm
    have order : compare (k : Int) 0 = .gt := Int.compare_eq_gt.mpr (by omega)
    rw [UnpackedFloat.normalize, order]
    simp only [Int.toNat_natCast]
    rw [round_exact canonical mantissa same.symm, ← same]
    exact stands_pack canonical mantissa

end

/-! ## Operations -/

theorem stands_toFloat (w : UInt32) : Stands w.toFloat w.toNat := by
  have double : IsDouble (w.toNat * 2 ^ (0 : Int)) :=
    ⟨w.toNat, 0, Nat.lt_trans w.toNat_lt (by decide), by decide, by decide, rfl⟩
  rw [← mul_one (w.toNat : ℚ), ← zpow_zero 2]
  exact stands_normalize w.toNat 0 double

section

variable {x y : Float} {p q : ℚ}

/-- The bits of a product of canonical numbers reach at least as far down as those of the number it is. -/
theorem Canonical.mul_below {m n k : Nat} {e t u : Int} (left : Canonical m e) (right : Canonical n t)
    (product : Canonical k u) (pos : 0 < m * n) (same : ((m * n : Nat) : ℚ) * 2 ^ (e + t) = k * 2 ^ u) :
    e + t ≤ u := by
  by_contra above
  have value : k = m * n * 2 ^ (e + t - u).toNat := mantissa_eq (by omega) same.symm
  have full : 2 ^ 52 ≤ m * n := by
    rcases left.full with full | small
    · exact Nat.le_trans full (Nat.le_mul_of_pos_right m (Nat.pos_of_mul_pos_left pos))
    · rcases right.full with full | small'
      · exact Nat.le_trans full (Nat.le_mul_of_pos_left n (Nat.pos_of_mul_pos_right pos))
      · have := product.least
        omega
  have double : 2 ^ 1 ≤ 2 ^ (e + t - u).toNat := Nat.pow_le_pow_right (by decide) (by omega)
  have long := Nat.mul_le_mul full double
  have short := product.short
  omega

/-- A product that is a double is not rounded. -/
theorem Stands.mul (left : Stands x p) (right : Stands y q) (double : IsDouble (p * q)) : Stands (x * y) (p * q) := by
  change Stands ⟨Float.Model.pack (UnpackedFloat.mul Format.binary64 x.toModel.unpack y.toModel.unpack)⟩ _
  rcases left.unpack with ⟨rfl, zero⟩ | ⟨m, e, first, canonical, rfl, held⟩
  · rw [zero, zero_mul]
    rcases right.unpack with ⟨-, zero'⟩ | ⟨n, t, second, -, -, held'⟩
    · rw [zero']
      exact stands_zero
    · rw [held']
      exact stands_zero
  · rcases right.unpack with ⟨rfl, zero'⟩ | ⟨n, t, second, canonical', rfl, held'⟩
    · rw [held, zero', mul_zero]
      exact stands_zero
    · obtain ⟨k, u, product, same⟩ := double.canonical
      have whole : ((m * n : Nat) : ℚ) * 2 ^ (e + t) = k * 2 ^ u := by
        rw [same, Nat.cast_mul, zpow_add₀ two_ne_zero]
        ring
      have below := canonical.mul_below canonical' product (Nat.mul_pos first second) whole
      have positive : 0 < k := mantissa_pos (Nat.mul_pos first second) whole
      rw [held, held', ← same]
      change Stands ⟨Float.Model.pack (roundWithAccuracy Format.binary64 .positive (m * n) (e + t) .exact)⟩ _
      rw [roundWithAccuracy_exact product positive below whole]
      exact stands_pack product positive

/-- A sum that is a double is not rounded. -/
theorem Stands.add (left : Stands x p) (right : Stands y q) (double : IsDouble (p + q)) : Stands (x + y) (p + q) := by
  change Stands ⟨Float.Model.pack (UnpackedFloat.add Format.binary64 x.toModel.unpack y.toModel.unpack)⟩ _
  rcases left.unpack with ⟨rfl, zero⟩ | ⟨m, e, first, canonical, rfl, held⟩
  · rw [zero, zero_add]
    rcases right.unpack with ⟨rfl, zero'⟩ | ⟨n, t, second, canonical', rfl, held'⟩
    · rw [zero']
      exact stands_zero
    · rw [held']
      exact stands_pack canonical' second
  · rcases right.unpack with ⟨rfl, zero'⟩ | ⟨n, t, second, canonical', rfl, held'⟩
    · rw [held, zero', add_zero]
      exact stands_pack canonical first
    · -- both are written in units of the smaller exponent
      let u := min e t
      let sum := m <<< (e - u).toNat + n <<< (t - u).toNat
      have units (k : Nat) {f : Int} (above : u ≤ f) : ((k <<< (f - u).toNat : Nat) : ℚ) * 2 ^ u = k * 2 ^ f := by
        rw [Nat.shiftLeft_eq, Nat.cast_mul, Nat.cast_pow, Nat.cast_ofNat, ← zpow_natCast, mul_assoc,
          ← zpow_add₀ two_ne_zero, Int.toNat_of_nonneg (Int.sub_nonneg_of_le above), Int.sub_add_cancel]
      have same : (sum : ℚ) * 2 ^ u = m * 2 ^ e + n * 2 ^ t := by
        rw [Nat.cast_add, add_mul, units m (min_le_left e t), units n (min_le_right e t)]
      rw [← same] at double ⊢
      rw [held, held']
      exact stands_normalize sum u double

end

/-! ## Quotients -/

theorem scaled_snd_pos (num : Nat) {den : Nat} (pos : 0 < den) (q : Int) : 0 < (scaled num den q).2 := by
  cases q with
  | ofNat k => exact Nat.mul_pos pos (Nat.two_pow_pos k)
  | negSucc k => exact pos

theorem scaled_eq (num den : Nat) (q : Int) :
    ((scaled num den q).1 : ℚ) / (scaled num den q).2 = num / den / 2 ^ q := by
  cases q with
  | ofNat k =>
    simp [scaled, div_div]
  | negSucc k =>
    simp [scaled, zpow_negSucc, div_mul_eq_mul_div]

theorem log2_bounds {n : Nat} (pos : 0 < n) : (2 : ℚ) ^ (n.log2 : Int) ≤ n ∧ (n : ℚ) < 2 ^ ((n.log2 : Int) + 1) := by
  obtain ⟨low, high⟩ := (Nat.log2_eq_iff pos.ne').mp rfl
  have succ : (n.log2 : Int) + 1 = (n.log2 + 1 : Nat) := rfl
  rw [succ, zpow_natCast, zpow_natCast]
  exact ⟨by exact_mod_cast low, by exact_mod_cast high⟩

section

variable {num den m : Nat} {t : Int}

/-- The power of two below a quotient is that below the number it is. -/
theorem log2Ratio_eq (counted : 0 < num) (pos : 0 < den) (positive : 0 < m) (same : (num : ℚ) / den = m * 2 ^ t) :
    log2Ratio num den = m.log2 + t := by
  have den' : (0 : ℚ) < den := Nat.cast_pos.mpr pos
  have low : (2 : ℚ) ^ ((m.log2 : Int) + t) ≤ num / den := by
    rw [same, zpow_add₀ two_ne_zero]
    exact mul_le_mul_of_nonneg_right (log2_bounds positive).1 (zpow_pos two_pos t).le
  have high : (num : ℚ) / den < 2 ^ ((m.log2 : Int) + 1 + t) := by
    rw [same, zpow_add₀ two_ne_zero]
    exact mul_lt_mul_of_pos_right (log2_bounds positive).2 (zpow_pos two_pos t)
  -- the difference of the two places is the power or one more
  have least : (2 : ℚ) ^ ((num.log2 : Int) - (den.log2 + 1)) < num / den := by
    rw [zpow_sub₀ two_ne_zero]
    exact div_lt_div₀' (log2_bounds counted).1 (log2_bounds pos).2 (Nat.cast_pos.mpr counted) den'
  have most : (num : ℚ) / den < 2 ^ ((num.log2 : Int) + 1 - den.log2) := by
    rw [zpow_sub₀ two_ne_zero]
    exact div_lt_div₀ (log2_bounds counted).2 (log2_bounds pos).1 (zpow_pos two_pos _).le (zpow_pos two_pos _)
  have one_lt : (1 : ℚ) < 2 := one_lt_two
  have above := (zpow_lt_zpow_iff_right₀ one_lt).mp (least.trans high)
  have below := (zpow_lt_zpow_iff_right₀ one_lt).mp (low.trans_lt most)
  have reaches (e : Int) : (scaled num den e).2 ≤ (scaled num den e).1 ↔ (2 : ℚ) ^ e ≤ num / den := by
    have unit : (0 : ℚ) < (scaled num den e).2 := Nat.cast_pos.mpr (scaled_snd_pos num pos e)
    have power : (0 : ℚ) < 2 ^ e := zpow_pos two_pos e
    rw [← one_le_div power, ← scaled_eq, one_le_div unit, Nat.cast_le]
  simp only [log2Ratio, reaches]
  by_cases reached : (2 : ℚ) ^ ((num.log2 : Int) - den.log2) ≤ num / den
  · have := (zpow_lt_zpow_iff_right₀ one_lt).mp (reached.trans_lt high)
    rw [if_pos reached]
    omega
  · have := (zpow_lt_zpow_iff_right₀ one_lt).mp (low.trans_lt (not_le.mp reached))
    rw [if_neg reached]
    omega

theorem roundDiv_mul (pos : 0 < den) : roundDiv (m * den) den = m := by
  simp [roundDiv, pos]

theorem ratioBits_eq (canonical : Canonical m t) (pos : 0 < den) (same : (num : ℚ) / den = m * 2 ^ t) :
    ratioBits num den = canonicalBits m t := by
  have den' : (0 : ℚ) < den := Nat.cast_pos.mpr pos
  rcases Nat.eq_zero_or_pos num with rfl | counted
  · have zero : m = 0 := by
      rw [Nat.cast_zero, zero_div, zero_eq_mul] at same
      exact Nat.cast_eq_zero.mp (same.resolve_right (zpow_ne_zero t two_ne_zero))
    have small : t = -1074 := canonical.full.resolve_left (by omega)
    rw [zero, small]
    rfl
  · have positive : 0 < m := by
      have : (0 : ℚ) < m * 2 ^ t := same ▸ div_pos (Nat.cast_pos.mpr counted) den'
      exact Nat.cast_pos.mp (pos_of_mul_pos_left this (zpow_pos two_pos t).le)
    have exponent : max (log2Ratio num den - 52) (-1074) = t := by
      rw [log2Ratio_eq counted pos positive same]
      have target := canonical.target
      simp only [Format.targetExponent, totalExponent, Format.mantissaBits, Format.minExponent] at target
      omega
    have whole : (scaled num den t).1 = m * (scaled num den t).2 := by
      have value := scaled_eq num den t
      rw [same, mul_div_cancel_right₀ _ (zpow_ne_zero t two_ne_zero),
        div_eq_iff (Nat.cast_pos.mpr (scaled_snd_pos num pos t)).ne'] at value
      exact_mod_cast value
    have bits := canonical.bits_lt
    rw [canonicalBits] at bits ⊢
    simp only [ratioBits, if_neg counted.ne', exponent, if_neg (not_lt.mpr canonical.most), whole,
      roundDiv_mul (scaled_snd_pos num pos t)]
    exact min_eq_right bits.le

end

/-- A quotient that is a double is not rounded. -/
theorem stands_ofRatio {num den : Nat} (pos : 0 < den) (double : IsDouble (num / den)) :
    Stands (ofRatio false num den) (num / den) := by
  obtain ⟨m, t, canonical, same⟩ := double.canonical
  obtain ⟨x, stands⟩ : ∃ x, Stands x (m * 2 ^ t) := by
    rcases Nat.eq_zero_or_pos m with rfl | positive
    · exact ⟨_, by simpa using stands_zero⟩
    · exact ⟨_, stands_pack canonical positive⟩
  have bits : UInt64.ofNat (ratioBits num den + 0) = x.toBits := by
    rw [ratioBits_eq canonical pos same.symm, Nat.add_zero, ← stands.toBits canonical, UInt64.ofNat_toNat]
  change Stands (Float.ofBits (UInt64.ofNat (ratioBits num den + 0))) _
  rw [bits, Float.ofBits_toBits, ← same]
  exact stands

end SeedStream.Double
