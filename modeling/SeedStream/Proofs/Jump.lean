import SeedStream.Proofs.Superposition

/-!
# Jumps

How to get far along a stream without taking every step. The bits of a natural number pick some of the
first states of a run, and their sum is a state again. Read as polynomials over the field of two
elements, such numbers multiply: the powers of `x` are the single steps, and modulo the polynomial of
the step every power of `x` has no more than 128 bits. So a state any number of steps beyond `origin`
is the sum of some of the first 128 (`advance_origin`).
-/

namespace SeedStream.Jump

open State

/-- The sum of the states that the low `k` bits of `a` pick from the run that starts at `s`. -/
def pick : Nat → Nat → State → State
  | 0, _, _ => 0
  | k + 1, a, s => (if a % 2 = 1 then s else 0) ^^^ pick k (a / 2) s.next

theorem pick_xor (k a b : Nat) (s : State) : pick k (a ^^^ b) s = pick k a s ^^^ pick k b s := by
  induction k generalizing a b s with
  | zero => exact (xor_zero (0 : State)).symm
  | succ k ih =>
    have first : (if (a ^^^ b) % 2 = 1 then s else 0) =
        (if a % 2 = 1 then s else 0) ^^^ (if b % 2 = 1 then s else 0) := by
      simp only [Nat.xor_mod_two_eq_one]
      by_cases left : a % 2 = 1
      · by_cases right : b % 2 = 1
        · rw [if_neg (not_not_intro (iff_of_true left right)), if_pos left, if_pos right, LawfulXor.xor_self]
        · rw [if_pos fun same => right (same.mp left), if_pos left, if_neg right, xor_zero]
      · by_cases right : b % 2 = 1
        · rw [if_pos fun same => left (same.mpr right), if_neg left, if_pos right, zero_xor]
        · rw [if_neg (not_not_intro (iff_of_false left right)), if_neg left, if_neg right, LawfulXor.xor_self]
    rw [pick, pick, pick, first, Nat.xor_div_two, ih]
    ac_rfl

theorem pick_zero (k : Nat) (s : State) : pick k 0 s = 0 := by
  have doubled := pick_xor k 0 0 s
  rw [Nat.xor_self] at doubled
  calc pick k 0 s = pick k 0 s ^^^ pick k 0 s := doubled
    _ = 0 := LawfulXor.xor_self _

/-- A step takes a sum of states to the sum of the next ones. -/
theorem pick_next (k a : Nat) (s : State) : pick k a s.next = (pick k a s).next := by
  induction k generalizing a s with
  | zero => exact next_zero.symm
  | succ k ih =>
    rw [pick, pick, next_xor, ih]
    congr 1
    split
    · rfl
    · exact next_zero.symm

theorem pick_advance (k a n : Nat) (s : State) : pick k a (advance n s) = advance n (pick k a s) := by
  induction n generalizing s with
  | zero => rfl
  | succ n ih => rw [advance, advance, ih, pick_next]

/-- A sum with one bit more: the highest bit picks the last state of the run. -/
theorem pick_succ (k a : Nat) (s : State) :
    pick (k + 1) a s = pick k a s ^^^ (if a / 2 ^ k % 2 = 1 then advance k s else 0) := by
  induction k generalizing a s with
  | zero =>
    rw [pick, pick, pick, Nat.pow_zero, Nat.div_one, xor_zero, zero_xor]
    rfl
  | succ k ih =>
    rw [pick, ih, pick, Nat.div_div_eq_div_mul, ← Nat.pow_succ', advance]
    exact (xor_assoc _ _ _).symm

theorem pick_double (k a : Nat) (s : State) : pick (k + 1) (2 * a) s = pick k a s.next := by
  rw [pick, Nat.mul_mod_right, Nat.mul_div_cancel_left _ (by decide : 0 < 2), if_neg (by decide), zero_xor]

/-! ## Polynomials modulo that of the step -/

/-- The bits of `x ^ 128` modulo the polynomial of the step. -/
def polynomial : Nat := 0x100fc65a2006254b11b489db6de18fc01

/-- The product of a polynomial with `x`. The functions on numbers stand by their own names, here and
    in `product`, as those are what a proof by evaluation computes at once. -/
def shifted (a : Nat) : Nat :=
  Nat.xor (Nat.mul 2 a) (Nat.mul (Nat.mod (Nat.shiftRight a 127) 2) polynomial)

/-- The product of a polynomial with the low `k` bits of another. -/
def product (a : Nat) : Nat → Nat → Nat
  | 0, _ => 0
  | k + 1, b => Nat.xor (shifted (product a k (Nat.div b 2))) (Nat.mul (Nat.mod b 2) a)

/-- The power of `x` to the low `k` bits of an exponent. -/
def power : Nat → Nat → Nat
  | 0, _ => 1
  | k + 1, n =>
    let root := power k (n / 2)
    if n % 2 = 1 then shifted (product root 128 root) else product root 128 root

/-- A state from which all others but zero are reached. -/
def origin : State := ⟨1, 0, 0, 0⟩

/-- The state 128 steps beyond the origin is a sum of states before it. -/
theorem advance_width : advance 128 origin = pick 128 polynomial origin := by
  decide +kernel

theorem pick_shifted (a : Nat) : pick 128 (shifted a) origin = (pick 128 a origin).next := by
  have top : pick 128 (a / 2 ^ 127 % 2 * polynomial) origin =
      if a / 2 ^ 127 % 2 = 1 then advance 127 origin.next else 0 := by
    rcases Nat.mod_two_eq_zero_or_one (a / 2 ^ 127) with even | odd
    · rw [even, Nat.zero_mul, pick_zero, if_neg (by decide)]
    · rw [odd, Nat.one_mul, ← advance_width, if_pos rfl, advance]
  calc pick 128 (shifted a) origin
      = pick 128 (2 * a ^^^ a / 2 ^ 127 % 2 * polynomial) origin := by
        rw [← Nat.shiftRight_eq_div_pow]
        rfl
    _ = pick 127 a origin.next ^^^ (if a / 2 ^ 127 % 2 = 1 then advance 127 origin.next else 0) := by
        rw [pick_xor, pick_double, top]
    _ = (pick 128 a origin).next := by rw [← pick_succ, pick_next]

/-- A product picks from the states that one factor leads to what the other picks. -/
theorem pick_product (a k b : Nat) : pick 128 (product a k b) origin = pick k b (pick 128 a origin) := by
  induction k generalizing b with
  | zero => exact pick_zero 128 origin
  | succ k ih =>
    have low : pick 128 (b % 2 * a) origin = if b % 2 = 1 then pick 128 a origin else 0 := by
      rcases Nat.mod_two_eq_zero_or_one b with even | odd
      · rw [even, Nat.zero_mul, pick_zero, if_neg (by decide)]
      · rw [odd, Nat.one_mul, if_pos rfl]
    calc pick 128 (product a (k + 1) b) origin
        = pick 128 (shifted (product a k (b / 2)) ^^^ b % 2 * a) origin := rfl
      _ = pick k (b / 2) (pick 128 a origin).next ^^^ (if b % 2 = 1 then pick 128 a origin else 0) := by
          rw [pick_xor, pick_shifted, ih, pick_next, low]
      _ = pick (k + 1) b (pick 128 a origin) := LawfulXor.xor_comm _ _

/-- The square of a polynomial that stands for a number of steps stands for twice as many. -/
theorem pick_square {a n : Nat} (stands : pick 128 a origin = advance n origin) :
    pick 128 (product a 128 a) origin = advance (n + n) origin := by
  rw [pick_product, stands, pick_advance, stands, advance_add]

/-- A power of `x` picks the state as many steps beyond the origin. -/
theorem pick_power {k n : Nat} (short : n < 2 ^ k) : pick 128 (power k n) origin = advance n origin := by
  induction k generalizing n with
  | zero =>
    obtain rfl : n = 0 := by simpa using short
    decide +kernel
  | succ k ih =>
    have half : n / 2 < 2 ^ k := by
      rw [Nat.pow_succ] at short
      omega
    have square := pick_square (ih half)
    rw [power]
    split
    · have twice : n / 2 + n / 2 + 1 = n := by omega
      rw [pick_shifted, square, ← advance_next]
      exact congrArg (advance · origin) twice
    · have twice : n / 2 + n / 2 = n := by omega
      rw [square, twice]

/-- A state beyond the origin is the sum of the states that a power of `x` picks. -/
theorem advance_origin {n : Nat} (short : n < 2 ^ 128) : advance n origin = pick 128 (power 128 n) origin :=
  (pick_power short).symm

/-! ## Where the origin is after the period -/

/-- The number of states but zero. -/
def period : Nat := 2 ^ 128 - 1

/-- The prime factors of the period, each of which divides it once. -/
def periodFactors : List Nat := [3, 5, 17, 257, 641, 65537, 274177, 6700417, 67280421310721]

theorem advance_period_origin : advance period origin = origin := by
  rw [advance_origin (by decide)]
  decide +kernel

theorem advance_cofactor_origin : ∀ q ∈ periodFactors, advance (period / q) origin ≠ origin := by
  intro q member
  have short : period / q < 2 ^ 128 := Nat.lt_of_le_of_lt (Nat.div_le_self _ _) (by decide)
  rw [advance_origin short]
  revert q
  decide +kernel

end SeedStream.Jump
