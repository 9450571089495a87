import Mathlib.Data.FinEnum
import Mathlib.Data.List.Prime
import Mathlib.Dynamics.PeriodicPts.Lemmas
import Mathlib.NumberTheory.LucasPrimality
import Mathlib.Tactic.NormNum.Prime
import Mathlib.Tactic.ReduceModChar
import SeedStream.Proofs.Jump

/-!
# The period of the step

All states but zero lie on one cycle. The origin comes back after `2 ^ 128 - 1` steps, by a jump, and
not after that number divided by any of its nine prime factors, so it does not come back earlier. The
states on its way are then as many as there are states but zero.
-/

namespace SeedStream

open State Jump

namespace Jump

/-! ## The cycle of the origin -/

theorem prod_periodFactors : periodFactors.prod = period := by
  norm_num [periodFactors, period]

/-- The largest factor passes Lucas's test. -/
theorem prime_last_factor : Nat.Prime 67280421310721 := by
  refine lucas_primality 67280421310721 3 (by reduce_mod_char) ?_
  intro q prime divides
  have split : 67280421310721 - 1 = [2, 2, 2, 2, 2, 2, 2, 2, 5, 47, 373, 2998279].prod := by norm_num
  rw [split] at divides
  have member := mem_list_primes_of_dvd_prod prime.prime (by norm_num [← Nat.prime_iff]) divides
  have cases : q = 2 ∨ q = 5 ∨ q = 47 ∨ q = 373 ∨ q = 2998279 := by simpa using member
  rcases cases with rfl | rfl | rfl | rfl | rfl
  all_goals
    norm_num
    reduce_mod_char
    decide

theorem prime_of_mem_periodFactors {q : Nat} (member : q ∈ periodFactors) : q.Prime := by
  simp only [periodFactors, List.mem_cons, List.not_mem_nil, or_false] at member
  rcases member with rfl | rfl | rfl | rfl | rfl | rfl | rfl | rfl | rfl
  case inr.inr.inr.inr.inr.inr.inr.inr => exact prime_last_factor
  all_goals norm_num

theorem isPeriodicPt_origin : Function.IsPeriodicPt next period origin := by
  rw [Function.IsPeriodicPt, Function.IsFixedPt, ← advance_eq_iterate]
  exact advance_period_origin

theorem minimalPeriod_origin : Function.minimalPeriod next origin = period := by
  obtain ⟨turns, product⟩ := isPeriodicPt_origin.minimalPeriod_dvd
  by_contra shorter
  have several : turns ≠ 1 := by
    rintro rfl
    exact shorter (by rw [product, Nat.mul_one])
  obtain ⟨q, prime, rest, rfl⟩ := Nat.exists_prime_and_dvd several
  have member : q ∈ periodFactors := by
    apply mem_list_primes_of_dvd_prod prime.prime (fun f factor => (prime_of_mem_periodFactors factor).prime)
    rw [prod_periodFactors, product]
    exact Dvd.intro_left (Function.minimalPeriod next origin * rest) (by ring)
  have cofactor : period / q = Function.minimalPeriod next origin * rest := by
    rw [product]
    exact Nat.div_eq_of_eq_mul_left prime.pos (by ring)
  apply advance_cofactor_origin q member
  rw [advance_eq_iterate, cofactor]
  exact ((Function.isPeriodicPt_minimalPeriod next origin).mul_const rest)

/-! ## Every state but zero lies on the cycle -/

/-- A state is its four words. -/
def wordsEquiv : State ≃ Word × Word × Word × Word where
  toFun s := (s.s0, s.s1, s.s2, s.s3)
  invFun w := ⟨w.1, w.2.1, w.2.2.1, w.2.2.2⟩
  left_inv _ := rfl
  right_inv _ := rfl

theorem card_state : Nat.card State = 2 ^ 128 := by
  have words : Nat.card Word = 2 ^ 32 := by
    rw [Nat.card_eq_fintype_card, ← FinEnum.card_eq_fintypeCard, FinEnum.card_UInt32]
  rw [Nat.card_congr wordsEquiv, Nat.card_prod, Nat.card_prod, Nat.card_prod, words]
  norm_num

/-- The zero state and those on the cycle of the origin, in order. -/
def listed : Option (Fin period) → State
  | none => zero
  | some k => advance k origin

theorem listed_injective : Function.Injective listed := by
  have avoids (k : Nat) : advance k origin ≠ zero :=
    fun leads => absurd (advance_eq_zero_iff.mp leads) (by decide)
  intro j k same
  match j, k with
  | none, none => rfl
  | none, some k => exact absurd same.symm (avoids k)
  | some j, none => exact absurd same (avoids j)
  | some j, some k =>
    rw [listed, listed, advance_eq_iterate, advance_eq_iterate] at same
    have apart := @Function.iterate_injOn_Iio_minimalPeriod _ next origin
    rw [minimalPeriod_origin] at apart
    exact congrArg some (Fin.ext (apart j.isLt k.isLt same))

theorem exists_advance_origin {s : State} (nonzero : s ≠ zero) : ∃ k < period, advance k origin = s := by
  have finite : Finite State := Nat.finite_of_card_ne_zero (by rw [card_state]; decide)
  have count : Nat.card State ≤ Nat.card (Option (Fin period)) := by
    rw [card_state, Finite.card_option, Nat.card_fin]
    decide
  obtain ⟨k, reached⟩ := (listed_injective.bijective_of_nat_card_le count).surjective s
  match k with
  | none => exact absurd reached.symm nonzero
  | some k => exact ⟨k, k.isLt, reached⟩

end Jump

namespace State

/-- Every state but zero comes back after the period and not earlier. -/
theorem minimalPeriod_next {s : State} (nonzero : s ≠ zero) : Function.minimalPeriod next s = period := by
  obtain ⟨k, _, rfl⟩ := exists_advance_origin nonzero
  have periodic : origin ∈ Function.periodicPts next :=
    Function.mk_mem_periodicPts (by decide) isPeriodicPt_origin
  rw [advance_eq_iterate, Function.minimalPeriod_apply_iterate periodic, minimalPeriod_origin]

theorem advance_eq_self_iff {s : State} (nonzero : s ≠ zero) {k : Nat} : advance k s = s ↔ period ∣ k := by
  rw [advance_eq_iterate, ← minimalPeriod_next nonzero]
  exact Function.isPeriodicPt_iff_minimalPeriod_dvd

/-- From every state but zero every other is reached within the period. -/
theorem exists_advance {s t : State} (start : s ≠ zero) (goal : t ≠ zero) : ∃ k < period, advance k s = t := by
  obtain ⟨m, shortM, rfl⟩ := exists_advance_origin start
  obtain ⟨n, _, rfl⟩ := exists_advance_origin goal
  have periodic : Function.IsPeriodicPt next period (advance m origin) := by
    rw [Function.IsPeriodicPt, Function.IsFixedPt, ← advance_eq_iterate]
    exact (advance_eq_self_iff start).mpr (Nat.dvd_refl period)
  refine ⟨(n + (period - m)) % period, Nat.mod_lt _ (by decide), ?_⟩
  calc advance ((n + (period - m)) % period) (advance m origin)
      = advance (n + (period - m)) (advance m origin) := by
        rw [advance_eq_iterate _ (advance m origin), periodic.iterate_mod_apply, advance_eq_iterate _ (advance m origin)]
    _ = advance n (advance (period - m + m) origin) := by rw [advance_add, advance_add]
    _ = advance n origin := by rw [Nat.sub_add_cancel (Nat.le_of_lt shortM), advance_period_origin]

/-- A step permutes the states but zero in a single cycle: every one of them comes back for the first
    time after `2 ^ 128 - 1` steps, and on its way it meets every other. -/
theorem next_single_cycle :
    Set.BijOn next {s | s ≠ zero} {s | s ≠ zero} ∧
      ∀ s, s ≠ zero →
        IsLeast {k | 0 < k ∧ advance k s = s} (2 ^ 128 - 1) ∧
          ∀ t, t ≠ zero → ∃ k < 2 ^ 128 - 1, advance k s = t := by
  refine ⟨⟨?_, next_injective.injOn, ?_⟩, ?_⟩
  · intro s nonzero leads
    exact nonzero (next_eq_zero_iff.mp leads)
  · intro t nonzero
    obtain ⟨k, _, leads⟩ := exists_advance (mt next_eq_zero_iff.mp nonzero) nonzero
    refine ⟨advance k t, ?_, (advance_next k t).symm.trans leads⟩
    exact mt advance_eq_zero_iff.mp nonzero
  · intro s nonzero
    refine ⟨⟨⟨by decide, (advance_eq_self_iff nonzero).mpr (Nat.dvd_refl period)⟩, ?_⟩, ?_⟩
    · rintro k ⟨positive, back⟩
      exact Nat.le_of_dvd positive ((advance_eq_self_iff nonzero).mp back)
    · intro t goal
      exact exists_advance nonzero goal

/-- The cycle as it is met from one state and on the way to another. -/
theorem next_single_cycle_low_to_high :
    (⟨1, 0, 0, 0⟩ : State) ≠ zero ∧ (⟨0, 0, 0, 0x80000000⟩ : State) ≠ zero ∧
      IsLeast {k | 0 < k ∧ advance k ⟨1, 0, 0, 0⟩ = ⟨1, 0, 0, 0⟩} (2 ^ 128 - 1) ∧
        ∃ k < 2 ^ 128 - 1, advance k ⟨1, 0, 0, 0⟩ = ⟨0, 0, 0, 0x80000000⟩ :=
  have start : (⟨1, 0, 0, 0⟩ : State) ≠ zero := by decide
  have goal : (⟨0, 0, 0, 0x80000000⟩ : State) ≠ zero := by decide
  ⟨start, goal, (next_single_cycle.2 _ start).1, (next_single_cycle.2 _ start).2 _ goal⟩

end State

end SeedStream
