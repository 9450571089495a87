import SeedStream.Proofs.SampleCounts

/-!
# Balance of bits

The battery compares the greatest deviation of a bit's mean from one half with five standard deviations of a
fair coin. In exact arithmetic this is a matter of integers: a bit that is one in `k` of `n` words is within
the limit if and only if `(2 k - n)²` is at most `25 n` (`bitBias_le_iff`). A bit that never changes is within
it up to 25 words and beyond it from 26 on.
-/

namespace SeedStream.Battery

/-- Deviations measured in exact arithmetic. -/
noncomputable instance : Scale ℝ where
  ofNat n := n
  sub a b := a - b
  div a b := a / b
  abs a := |a|
  sqrt := Real.sqrt
  max := Max.max
  le a b := a ≤ b

theorem biasLimit_real (n : Nat) : biasLimit ℝ n = 5 / 2 / √n := rfl

theorem bitBias_real (n k : Nat) : bitBias ℝ n k = |(k : ℝ) / n - 1 / 2| := by
  change |(k : ℝ) / n - (1 : Nat) / (2 : Nat)| = _
  rw [Nat.cast_one, Nat.cast_ofNat]

/-- A bit that is one in `k` of `n` words deviates by at most five standard deviations. -/
theorem bitBias_le_iff {n : Nat} (throws : 0 < n) (k : Nat) :
    bitBias ℝ n k ≤ biasLimit ℝ n ↔ (2 * (k : Int) - n) ^ 2 ≤ 25 * n := by
  have positive : (0 : ℝ) < n := Nat.cast_pos.mpr throws
  have root : (0 : ℝ) < √n := Real.sqrt_pos.mpr positive
  have square : √(n : ℝ) * √n = n := Real.mul_self_sqrt positive.le
  have deviation : bitBias ℝ n k = |2 * (k : ℝ) - n| / (2 * n) := by
    rw [bitBias_real, show (k : ℝ) / n - 1 / 2 = (2 * k - n) / (2 * n) by field_simp, abs_div,
      abs_of_pos (by positivity : (0 : ℝ) < 2 * n)]
  have limit : biasLimit ℝ n = 5 * √n / (2 * n) := by
    rw [biasLimit_real]
    field_simp
    linarith
  calc bitBias ℝ n k ≤ biasLimit ℝ n
      ↔ |2 * (k : ℝ) - n| ≤ 5 * √n := by
        rw [deviation, limit, div_le_div_iff_of_pos_right (by positivity)]
    _ ↔ (2 * (k : ℝ) - n) ^ 2 ≤ 25 * n := by
        rw [← sq_le_sq₀ (abs_nonneg _) (by positivity), sq_abs, mul_pow, Real.sq_sqrt positive.le]
        norm_num
    _ ↔ (2 * (k : Int) - n) ^ 2 ≤ 25 * n := by
        rw [← Int.cast_le (R := ℝ)]
        push_cast
        rfl

/-! ## The greatest deviation -/

theorem foldl_max_le_iff {α : Type} [LinearOrder α] (l : List α) (a c : α) :
    l.foldl max a ≤ c ↔ a ≤ c ∧ ∀ x ∈ l, x ≤ c := by
  induction l generalizing a with
  | nil => simp
  | cons x rest ih => rw [List.foldl_cons, ih, max_le_iff, and_assoc, List.forall_mem_cons]

variable {ws : List Word}

/-- All bits are within five standard deviations. -/
def Balanced (ws : List Word) : Prop :=
  ∀ i < 32, (2 * (ws.countP (fun w => w.toNat.testBit i) : Int) - ws.length) ^ 2 ≤ 25 * ws.length

theorem maxBias_le_iff (words : ws ≠ []) : maxBias ℝ ws ≤ biasLimit ℝ ws.length ↔ Balanced ws := by
  have positive : 0 < ws.length := List.length_pos_iff.mpr words
  have limit : ((0 : Nat) : ℝ) ≤ biasLimit ℝ ws.length := by
    rw [biasLimit_real, Nat.cast_zero]
    positivity
  have greatest : maxBias ℝ ws = (biases ℝ ws).foldl max ((0 : Nat) : ℝ) := rfl
  rw [greatest, foldl_max_le_iff, and_iff_right limit, biases, bitCounts_eq, List.map_map, List.forall_mem_map]
  constructor
  · intro within i inside
    exact (bitBias_le_iff positive _).mp (within i (List.mem_range.mpr inside))
  · intro balanced i inside
    exact (bitBias_le_iff positive _).mpr (balanced i (List.mem_range.mp inside))

theorem passes_real (probable even : Bool) (words : ws ≠ []) :
    passes ℝ probable even ws = true ↔ probable = true ∧ even = true ∧ Balanced ws := by
  have verdict : Scale.le (maxBias ℝ ws) (biasLimit ℝ ws.length) = true ↔ Balanced ws :=
    decide_eq_true_iff.trans (maxBias_le_iff words)
  rw [passes, Bool.and_eq_true, Bool.and_eq_true, verdict, and_assoc]

theorem passes_of_unbalanced (words : ws ≠ []) {i : Nat} (inside : i < 32)
    (far : 25 * (ws.length : Int) < (2 * (ws.countP (fun w => w.toNat.testBit i) : Int) - ws.length) ^ 2)
    (probable even : Bool) : passes ℝ probable even ws = false := by
  rw [← Bool.not_eq_true, passes_real probable even words]
  rintro ⟨-, -, balanced⟩
  exact absurd (balanced i inside) (not_le.mpr far)

/-! ## Bits that never change -/

/-- A bit is the same in all words of a sample. -/
def Stuck (i : Nat) (ws : List Word) : Prop :=
  ∀ v ∈ ws, ∀ w ∈ ws, v.toNat.testBit i = w.toNat.testBit i

/-- The count of a bit that never changes is none or all of the words. -/
theorem deviation_of_stuck {i : Nat} (stuck : Stuck i ws) :
    (2 * (ws.countP (fun w => w.toNat.testBit i) : Int) - ws.length) ^ 2 = (ws.length : Int) ^ 2 := by
  by_cases seen : ∃ w ∈ ws, w.toNat.testBit i = true
  case pos =>
    obtain ⟨w, member, one⟩ := seen
    have all : ws.countP (fun w => w.toNat.testBit i) = ws.length :=
      List.countP_eq_length.mpr fun v there => (stuck v there w member).trans one
    rw [all]
    ring
  case neg =>
    have never : ws.countP (fun w => w.toNat.testBit i) = 0 :=
      List.countP_eq_zero.mpr fun v there one => seen ⟨v, there, one⟩
    rw [never]
    ring

theorem passes_of_stuck {i : Nat} (inside : i < 32) (stuck : Stuck i ws) (long : 26 ≤ ws.length)
    (probable even : Bool) : passes ℝ probable even ws = false := by
  have words : ws ≠ [] := List.length_pos_iff.mp (by omega)
  refine passes_of_unbalanced words inside ?_ probable even
  rw [deviation_of_stuck stuck]
  have : (26 : Int) ≤ ws.length := by omega
  nlinarith

/-- No count is further from one half than that of a bit that never changes. -/
theorem balanced_of_short (short : ws.length ≤ 25) : Balanced ws := by
  intro i _
  have within : ws.countP (fun w => w.toNat.testBit i) ≤ ws.length := List.countP_le_length
  have low : -(ws.length : Int) ≤ 2 * (ws.countP (fun w => w.toNat.testBit i) : Int) - ws.length := by omega
  have high : 2 * (ws.countP (fun w => w.toNat.testBit i) : Int) - ws.length ≤ ws.length := by omega
  calc (2 * (ws.countP (fun w => w.toNat.testBit i) : Int) - ws.length) ^ 2
      ≤ (ws.length : Int) ^ 2 := sq_le_sq' low high
    _ ≤ 25 * ws.length := by
      rw [pow_two]
      exact Int.mul_le_mul_of_nonneg_right (by omega) (by omega)

/-! ## The verdict -/

/-- The report of a sample gives the greatest deviation, its limit and the verdict in the arithmetic of doubles. -/
theorem passed_of_run {known : Distributions} {alpha : Value} {report : Report}
    (done : run known ws alpha = .ok report) :
    report.maxBias = maxBias Float ws ∧ report.biasLimit = biasLimit Float ws.length ∧
      ∃ probable even, report.passed = passes Float probable even ws := by
  obtain ⟨probable, -, done⟩ := bind_eq_ok_iff.mp done
  split at done
  all_goals
    obtain ⟨even, -, done⟩ := bind_eq_ok_iff.mp done
    cases done
    exact ⟨rfl, rfl, probable, even, rfl⟩

/-- The greatest deviation is within its limit, in exact arithmetic, if and only if every bit is within five
    standard deviations: `(2 k - n)²` is at most `25 n` for the `k` of the `n` words in which it is one. So a
    sample passes if and only if both probabilities reach the level and this holds of every bit. It does not
    pass whenever one bit is further away, and not if it has 26 words or more and some bit never changes, be
    the probabilities and the level what they may; with 25 words or fewer no bit is too far away. A report
    gives this verdict in doubles, whatever distributions it asks. -/
theorem verdict_is_five_sigma (words : ws ≠ []) :
    (maxBias ℝ ws ≤ biasLimit ℝ ws.length ↔
      ∀ i < 32, (2 * (ws.countP (fun w => w.toNat.testBit i) : Int) - ws.length) ^ 2 ≤ 25 * ws.length) ∧
      (∀ monobit byteProb alpha : ℝ, passes ℝ (decide (alpha ≤ monobit)) (decide (alpha ≤ byteProb)) ws = true ↔
        alpha ≤ monobit ∧ alpha ≤ byteProb ∧
          ∀ i < 32, (2 * (ws.countP (fun w => w.toNat.testBit i) : Int) - ws.length) ^ 2 ≤ 25 * ws.length) ∧
      (∀ i < 32, 25 * (ws.length : Int) < (2 * (ws.countP (fun w => w.toNat.testBit i) : Int) - ws.length) ^ 2 →
        ∀ probable even, passes ℝ probable even ws = false) ∧
      (26 ≤ ws.length → ∀ i < 32, (∀ v ∈ ws, ∀ w ∈ ws, v.toNat.testBit i = w.toNat.testBit i) →
        ∀ probable even, passes ℝ probable even ws = false) ∧
      (ws.length ≤ 25 → maxBias ℝ ws ≤ biasLimit ℝ ws.length) ∧
      ∀ known alpha report, run known ws alpha = .ok report →
        report.maxBias = maxBias Float ws ∧ report.biasLimit = biasLimit Float ws.length ∧
          ∃ probable even, report.passed = passes Float probable even ws := by
  refine ⟨maxBias_le_iff words, ?_, ?_, ?_, ?_, ?_⟩
  · intro monobit byteProb alpha
    rw [passes_real _ _ words, decide_eq_true_iff, decide_eq_true_iff]
    rfl
  · intro i inside far probable even
    exact passes_of_unbalanced words inside far probable even
  · intro long i inside stuck probable even
    exact passes_of_stuck inside stuck long probable even
  · intro short
    exact (maxBias_le_iff words).mpr (balanced_of_short short)
  · intro known alpha report done
    exact passed_of_run done

/-- The same word 26 times does not pass, and 25 times its bits are within the limit. -/
theorem verdict_is_five_sigma_stuck :
    List.replicate 26 (7 : Word) ≠ [] ∧ List.replicate 25 (7 : Word) ≠ [] ∧
      (∀ probable even, passes ℝ probable even (List.replicate 26 7) = false) ∧
      maxBias ℝ (List.replicate 25 7) ≤ biasLimit ℝ 25 := by
  have many : List.replicate 26 (7 : Word) ≠ [] := List.cons_ne_nil _ _
  have few : List.replicate 25 (7 : Word) ≠ [] := List.cons_ne_nil _ _
  have stuck : ∀ v ∈ List.replicate 26 (7 : Word), ∀ w ∈ List.replicate 26 (7 : Word),
      v.toNat.testBit 0 = w.toNat.testBit 0 := by
    intro v here w there
    rw [List.eq_of_mem_replicate here, List.eq_of_mem_replicate there]
  obtain ⟨-, -, -, beyond, -⟩ := verdict_is_five_sigma many
  obtain ⟨-, -, -, -, within, -⟩ := verdict_is_five_sigma few
  exact ⟨many, few, beyond (by decide) 0 (by decide) stuck, within (by decide)⟩

end SeedStream.Battery
