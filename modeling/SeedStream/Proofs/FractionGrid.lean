import SeedStream.Proofs.ExactDoubles
import SeedStream.Proofs.Uniformity

/-!
# The grid of fractions

A fraction takes two words and makes of them one point of the grid of multiples of `2 ^ -53`. Written as an expression
of doubles, each step of it has a result that is a double, so nothing is rounded on the way (`stands_expression`). As
many pairs of words lead to one point of the grid as to any other.
-/

namespace SeedStream

namespace Fraction

open Double (Stands IsDouble)

variable (a b : Word)

/-- The fraction of two words as doubles make it: a product, a sum and one more product, all of which may round. -/
def expression : Float :=
  ((a >>> 5).toFloat * 67108864.0 + (b >>> 6).toFloat) * (1.0 / 9007199254740992.0)

/-! ## No step rounds -/

theorem isDouble_of_lt {n : Nat} (short : n < 2 ^ 53) {e : Int} (least : -1074 ≤ e) (most : e ≤ 971) :
    IsDouble (n * 2 ^ e) :=
  ⟨n, e, short, least, most, rfl⟩

theorem isDouble_point (f : Fraction) : IsDouble (f.numerator / 2 ^ 53) := by
  have point := isDouble_of_lt f.lt (e := -53) (by decide) (by decide)
  rwa [zpow_neg, ← div_eq_mul_inv] at point

theorem stands_shift : Stands 67108864.0 (2 ^ 26) :=
  ⟨2 ^ 52, -26, rfl, by norm_num⟩

theorem stands_unit : Stands (1.0 / 9007199254740992.0) (1 / 2 ^ 53) :=
  ⟨2 ^ 52, -105, rfl, by norm_num⟩

theorem stands_high : Stands ((a >>> 5).toFloat * 67108864.0) ((a >>> 5).toNat * 2 ^ 26) := by
  have short := Nat.lt_trans (high_lt a) (by decide : 0x8000000 < 2 ^ 53)
  exact (Double.stands_toFloat (a >>> 5)).mul stands_shift (isDouble_of_lt short (e := 26) (by decide) (by decide))

theorem numerator_ofWords :
    ((ofWords a b).numerator : ℚ) = (a >>> 5).toNat * 2 ^ 26 + (b >>> 6).toNat := by
  rw [ofWords]
  push_cast
  norm_num

theorem stands_sum :
    Stands ((a >>> 5).toFloat * 67108864.0 + (b >>> 6).toFloat) ((a >>> 5).toNat * 2 ^ 26 + (b >>> 6).toNat) := by
  have double := isDouble_of_lt (ofWords a b).lt (e := 0) (by decide) (by decide)
  rw [zpow_zero, mul_one, numerator_ofWords] at double
  exact (stands_high a).add (Double.stands_toFloat (b >>> 6)) double

theorem stands_expression : Stands (expression a b) ((ofWords a b).numerator / 2 ^ 53) := by
  have double := isDouble_point (ofWords a b)
  rw [div_eq_mul_one_div, numerator_ofWords] at double ⊢
  exact (stands_sum a b).mul stands_unit double

theorem stands_expression_iff {k : Nat} : Stands (expression a b) (k / 2 ^ 53) ↔ (ofWords a b).numerator = k := by
  have unit : (2 : ℚ) ^ 53 ≠ 0 := by norm_num
  constructor
  · intro stands
    have same := (stands_expression a b).eq stands
    exact Nat.cast_inj.mp ((div_left_inj' unit).mp same)
  · rintro rfl
    exact stands_expression a b

/-- The double of a fraction is the fraction. -/
theorem stands_toDouble (f : Fraction) : Stands f.toDouble (f.numerator / 2 ^ 53) := by
  have whole : ((0x20000000000000 : Nat) : ℚ) = 2 ^ 53 := by norm_num
  rw [← whole]
  exact Double.stands_ofRatio (by decide) (whole ▸ isDouble_point f)

/-- The fraction of two words is what the expression gives. -/
theorem toDouble_ofWords : (ofWords a b).toDouble = expression a b :=
  (stands_toDouble _).unique (stands_expression a b)

end Fraction

/-! ## The words that lead to a point -/

theorem Word.ncard_shiftRight {k : Word} (short : k.toNat < 32) {i : Nat} (inside : i < 2 ^ (32 - k.toNat)) :
    {w : Word | (w >>> k).toNat = i}.ncard = 2 ^ k.toNat := by
  have high (w : Word) : (w >>> k).toNat = i ↔ w.toNat ∈ Finset.Ico (2 ^ k.toNat * i) (2 ^ k.toNat * (i + 1)) := by
    have positive := Nat.two_pow_pos k.toNat
    rw [UInt32.toNat_shiftRight, Nat.mod_eq_of_lt short, Nat.shiftRight_eq_div_pow, Finset.mem_Ico,
      Nat.div_eq_iff positive, Nat.mul_comm i, Nat.mul_succ]
    omega
  have small : ∀ j ∈ Finset.Ico (2 ^ k.toNat * i) (2 ^ k.toNat * (i + 1)), j < 2 ^ 32 := by
    intro j member
    have all : 2 ^ k.toNat * (i + 1) ≤ 2 ^ k.toNat * 2 ^ (32 - k.toNat) := Nat.mul_le_mul_left _ inside
    rw [← Nat.pow_add, Nat.add_sub_cancel' short.le] at all
    exact Nat.lt_of_lt_of_le (Finset.mem_Ico.mp member).2 all
  simp only [high]
  rw [ncard_toNat_mem small, Nat.card_Ico, Nat.mul_succ, Nat.add_sub_cancel_left]

namespace Fraction

/-- The pairs of words that lead to a point of the grid differ in the low bits that are not used. -/
theorem ncard_numerator {k : Nat} (inside : k < 2 ^ 53) :
    {p : Word × Word | (ofWords p.1 p.2).numerator = k}.ncard = 2 ^ 11 := by
  have split : {p : Word × Word | (ofWords p.1 p.2).numerator = k} =
      {a : Word | (a >>> 5).toNat = k / 2 ^ 26} ×ˢ {b : Word | (b >>> 6).toNat = k % 2 ^ 26} := by
    ext ⟨a, b⟩
    have := low_lt b
    simp only [ofWords, Set.mem_ofPred_eq, Set.mem_prod]
    omega
  have half : k / 2 ^ 26 < 2 ^ 27 := by omega
  have high := Word.ncard_shiftRight (k := 5) (by decide) half
  have low := Word.ncard_shiftRight (k := 6) (by decide) (i := k % 2 ^ 26) (Nat.mod_lt k (by decide))
  rw [split, Set.ncard_prod, high, low]
  rfl

end Fraction

namespace Generator

open Double (Stands)

variable {σ : Type} [EntropySource σ]

theorem perform_fraction_eq_some_ok_iff [Memory] {g h : Generator σ} {answer : Answer} :
    g.perform .fraction = some (.ok answer, h) ↔
      ∃ a b : Word, draws 2 g = [.ok a, .ok b] ∧ h = after 2 g ∧ answer = .real (Fraction.expression a b) := by
  rw [perform, fraction]
  rcases first : g.draw with ⟨e | a, u⟩
  · simp [draws, first, Except.map]
  · rcases second : u.draw with ⟨e | b, v⟩
    · simp [draws, first, second, Except.map]
    · simp [draws, after, first, second, Except.map, Fraction.toDouble_ofWords, eq_comm, and_comm]

/-- A fraction, in either mode and over any source, takes two words and nothing else: the first gives its high bits and
    the second its low ones. Each step of the expression that makes a double of them is exact, as every result is a
    number of fewer than 54 bits times a power of two; the fraction is not below zero and below one. Every point of the
    grid is the fraction of the same number of pairs of words. -/
theorem fraction_exact_and_uniform [Memory] :
    (∀ (σ : Type) [EntropySource σ] (g h : Generator σ) (answer : Answer),
        g.perform .fraction = some (.ok answer, h) ↔
          ∃ a b : Word, draws 2 g = [.ok a, .ok b] ∧ h = after 2 g ∧ answer = .real (Fraction.expression a b)) ∧
      (∀ a b : Word,
        let high : ℚ := (a >>> 5).toNat
        let low : ℚ := (b >>> 6).toNat
        Stands (a >>> 5).toFloat high ∧ Stands ((a >>> 5).toFloat * 67108864.0) (high * 2 ^ 26) ∧
          Stands (b >>> 6).toFloat low ∧
          Stands ((a >>> 5).toFloat * 67108864.0 + (b >>> 6).toFloat) (high * 2 ^ 26 + low) ∧
          Stands (1.0 / 9007199254740992.0) (1 / 2 ^ 53) ∧
          Stands (Fraction.expression a b) ((high * 2 ^ 26 + low) / 2 ^ 53) ∧
          high * 2 ^ 26 + low < 2 ^ 53 ∧
          0 ≤ (high * 2 ^ 26 + low) / 2 ^ 53 ∧ (high * 2 ^ 26 + low) / 2 ^ 53 < 1) ∧
      ∀ k : Nat, k < 2 ^ 53 → {p : Word × Word | Stands (Fraction.expression p.1 p.2) (k / 2 ^ 53)}.ncard = 2 ^ 11 := by
  refine ⟨fun σ _ g h answer => perform_fraction_eq_some_ok_iff, fun a b => ?_, fun k inside => ?_⟩
  · have whole := Fraction.numerator_ofWords a b
    have short : ((Fraction.ofWords a b).numerator : ℚ) < 2 ^ 53 := by exact_mod_cast (Fraction.ofWords a b).lt
    have point := Fraction.stands_expression a b
    rw [whole] at short point
    refine ⟨Double.stands_toFloat _, Fraction.stands_high a, Double.stands_toFloat _, Fraction.stands_sum a b,
      Fraction.stands_unit, point, short, by positivity, ?_⟩
    rwa [div_lt_one (by positivity)]
  · simp only [Fraction.stands_expression_iff]
    exact Fraction.ncard_numerator inside

section

attribute [local instance] Memory.standard

/-- The two largest words of a native source, which make the last point of the grid. -/
theorem fraction_exact_and_uniform_last :
    let g : Generator Sequence := ⟨.native, State.zero, ⟨[0xffffffff], true, 0, 1, by decide⟩⟩
    2 ^ 53 - 1 < 2 ^ 53 ∧
      g.perform .fraction = some (.ok (.real (Fraction.expression 0xffffffff 0xffffffff)), after 2 g) ∧
      {p : Word × Word | Stands (Fraction.expression p.1 p.2) ((2 ^ 53 - 1 : Nat) / 2 ^ 53)}.ncard = 2 ^ 11 := by
  intro g
  obtain ⟨takes, -, each⟩ := fraction_exact_and_uniform
  exact ⟨by decide, (takes Sequence g (after 2 g) _).mpr ⟨_, _, rfl, rfl, rfl⟩, each (2 ^ 53 - 1) (by decide)⟩

end

end Generator

end SeedStream
