import Mathlib.Analysis.SpecialFunctions.Pow.Real
import Mathlib.Data.Nat.Nth
import SeedStream.Proofs.BitRows

/-!
# The secure hash standard

The 256-bit hash of a row of bits, as the standard defines it: the row is padded to blocks of 512 bits, every
block is extended to a schedule of 64 words and mixed into the hash value in as many rounds. The constants of the
rounds and the first hash value are roots of the first primes. The tables that digests are made with hold just these
words (`roundConstants_eq`, `words_initial`).
-/

namespace SeedStream

namespace SecureHash

/-! ## Padding -/

theorem exists_zeros (length : Nat) : ∃ k, length + 1 + k ≡ 448 [MOD 512] := by
  refine ⟨(448 + 512 * (length + 1) - (length + 1)), ?_⟩
  rw [Nat.ModEq]
  omega

/-- The number of zeros after the one that closes a row: the least that leaves 64 bits of a block. -/
def zeros (length : Nat) : Nat :=
  Nat.find (exists_zeros length)

/-- A row with a one, zeros and its length behind it. The length has 64 bits; the standard has no longer rows. -/
def padded (message : BitRow) : BitRow :=
  message ++ true :: (List.replicate (zeros message.length) false ++ BitRow.ofNat 64 message.length)

/-- A block of a padded row. -/
def block (row : BitRow) (i : Nat) : BitRow :=
  (row.drop (512 * i)).take 512

/-- A word of a block. -/
def word (b : BitRow) (j : Nat) : BitVec 32 :=
  BitVec.ofNat 32 (BitRow.toNat ((b.drop (32 * j)).take 32))

theorem word_append_zero {front : BitRow} (length : front.length = 32) (rest : BitRow) :
    word (front ++ rest) 0 = BitVec.ofNat 32 (BitRow.toNat front) := by
  rw [word, Nat.mul_zero, List.drop_zero, List.take_left' length]

theorem word_append_succ {front : BitRow} (length : front.length = 32) (rest : BitRow) (j : Nat) :
    word (front ++ rest) (j + 1) = word rest j := by
  have place : 32 * (j + 1) = front.length + 32 * j := by omega
  rw [word, place, List.drop_length_add_append, word]

/-! ## Functions and constants -/

/-- Each bit of the first word chooses between the others. -/
def choose (x y z : BitVec 32) : BitVec 32 :=
  (x &&& y) ^^^ (~~~x &&& z)

/-- The bit that most of three words have. -/
def majority (x y z : BitVec 32) : BitVec 32 :=
  (x &&& y) ^^^ (x &&& z) ^^^ (y &&& z)

/-- Three rotations of a word. -/
def largeSigma (i j k : Nat) (x : BitVec 32) : BitVec 32 :=
  x.rotateRight i ^^^ x.rotateRight j ^^^ x.rotateRight k

/-- Two rotations of a word, and a shift that loses the bits which leave. -/
def smallSigma (i j k : Nat) (x : BitVec 32) : BitVec 32 :=
  x.rotateRight i ^^^ x.rotateRight j ^^^ (x >>> k)

/-- The first 32 bits of the fractional part of a root of a number. -/
noncomputable def rootWord (degree n : Nat) : BitVec 32 :=
  BitVec.ofNat 32 ⌊2 ^ 32 * Int.fract ((n : ℝ) ^ (1 / degree : ℝ))⌋₊

/-- The constant of a round: the cube root of a prime. -/
noncomputable def roundConstant (t : Nat) : BitVec 32 :=
  rootWord 3 (Nat.nth Nat.Prime t)

/-! ## Hash values -/

/-- The eight words of a hash value, which are also the working variables of the rounds. -/
structure Variables where
  a : BitVec 32
  b : BitVec 32
  c : BitVec 32
  d : BitVec 32
  e : BitVec 32
  f : BitVec 32
  g : BitVec 32
  h : BitVec 32

/-- The bits of the words in order. -/
def Variables.bits (v : Variables) : BitRow :=
  [v.a, v.b, v.c, v.d, v.e, v.f, v.g, v.h].flatMap fun w => BitRow.ofNat 32 w.toNat

/-- Sums word by word. -/
def Variables.add (v w : Variables) : Variables :=
  ⟨v.a + w.a, v.b + w.b, v.c + w.c, v.d + w.d, v.e + w.e, v.f + w.f, v.g + w.g, v.h + w.h⟩

/-- The hash value before any block: the square roots of the first eight primes. -/
noncomputable def initial : Variables :=
  let root (i : Nat) := rootWord 2 (Nat.nth Nat.Prime i)
  ⟨root 0, root 1, root 2, root 3, root 4, root 5, root 6, root 7⟩

/-- The schedule of a block: its sixteen words, and then each word from four before it. -/
def schedule (b : BitRow) (t : Nat) : BitVec 32 :=
  if t < 16 then word b t
  else
    smallSigma 17 19 10 (schedule b (t - 2)) + schedule b (t - 7) + smallSigma 7 18 3 (schedule b (t - 15)) +
      schedule b (t - 16)

/-- One round, with a constant and a word of the schedule. -/
def round (v : Variables) (constant input : BitVec 32) : Variables :=
  let t1 := v.h + largeSigma 6 11 25 v.e + choose v.e v.f v.g + constant + input
  let t2 := largeSigma 2 13 22 v.a + majority v.a v.b v.c
  ⟨t1 + t2, v.a, v.b, v.c, v.d + t1, v.e, v.f, v.g⟩

/-- The working variables after so many rounds on a block. -/
noncomputable def rounds (b : BitRow) (v : Variables) : Nat → Variables
  | 0 => v
  | t + 1 => round (rounds b v t) (roundConstant t) (schedule b t)

/-- The hash value of the first blocks of a row. -/
noncomputable def value (row : BitRow) : Nat → Variables
  | 0 => initial
  | i + 1 => (rounds (block row i) (value row i) 64).add (value row i)

/-- What stands behind the first blocks does not change their hash value. -/
theorem value_append {row : BitRow} {i : Nat} (inside : 512 * i ≤ row.length) (more : BitRow) :
    value (row ++ more) i = value row i := by
  induction i with
  | zero => rfl
  | succ i ih =>
    have same : block (row ++ more) i = block row i := by
      rw [block, block, List.drop_append_of_le_length (by omega),
        List.take_append_of_le_length (by rw [List.length_drop]; omega)]
    rw [value, value, ih (by omega), same]

/-- The hash of a row of bits. -/
noncomputable def digest (message : BitRow) : BitRow :=
  (value (padded message) ((padded message).length / 512)).bits

/-- The hexadecimal digits of a row of bits, four bits to a digit. -/
def hexDigits : BitRow → List Char
  | b3 :: b2 :: b1 :: b0 :: rest => Nat.digitChar (BitRow.toNat [b3, b2, b1, b0]) :: hexDigits rest
  | _ => []

/-- Bits in hexadecimal. -/
def hexText (bits : BitRow) : String :=
  String.ofList (hexDigits bits)

theorem hexDigits_ofNat_append (n : Nat) (rest : BitRow) :
    hexDigits (BitRow.ofNat 4 n ++ rest) = Nat.digitChar (n % 16) :: hexDigits rest := by
  have value : BitRow.toNat (BitRow.ofNat 4 n) = n % 16 := BitRow.toNat_ofNat 4 n
  rw [← value]
  rfl

/-! ## The first primes -/

theorem prime_iff_of_lt {n : ℕ} (small : n < 18 ^ 2) : n.Prime ↔ 2 ≤ n ∧ ∀ m < 18, 2 ≤ m → m ∣ n → m = n := by
  constructor
  · intro prime
    exact ⟨prime.two_le, fun m _ proper divides => ((Nat.dvd_prime prime).mp divides).resolve_left (by omega)⟩
  · rintro ⟨two, none⟩
    by_contra composite
    have square := Nat.minFac_sq_le_self (by omega) composite
    have least : n.minFac.Prime := Nat.minFac_prime (by omega)
    have same := none n.minFac (lt_of_pow_lt_pow_left₀ 2 (by decide) (square.trans_lt small)) least.two_le n.minFac_dvd
    exact composite (same ▸ least)

/-- The primes that the constants are roots of. -/
def firstPrimes : List Nat :=
  [2, 3, 5, 7, 11, 13, 17, 19, 23, 29, 31, 37, 41, 43, 47, 53, 59, 61, 67, 71, 73, 79, 83, 89, 97, 101, 103, 107, 109,
    113, 127, 131, 137, 139, 149, 151, 157, 163, 167, 173, 179, 181, 191, 193, 197, 199, 211, 223, 227, 229, 233, 239,
    241, 251, 257, 263, 269, 271, 277, 281, 283, 293, 307, 311]

theorem filter_prime : (List.range 312).filter Nat.Prime = firstPrimes := by
  -- The kernel tries divisors below the root; finding the least one takes it ten times as long.
  have tried : (List.range 312).filter Nat.Prime =
      (List.range 312).filter fun n => 2 ≤ n ∧ ∀ m < 18, 2 ≤ m → m ∣ n → m = n := by
    refine List.filter_congr fun n inside => decide_eq_decide.mpr (prime_iff_of_lt ?_)
    have := List.mem_range.mp inside
    omega
  rw [tried]
  decide +kernel

theorem filter_range_eq (p : ℕ → Prop) [DecidablePred p] (n : ℕ) :
    (List.range n).filter p = (List.range (Nat.count p n)).map (Nat.nth p) := by
  induction n with
  | zero => rfl
  | succ n ih =>
    rw [List.range_succ, List.filter_append, ih, Nat.count_succ]
    by_cases found : p n
    · simp [found, List.range_succ, Nat.nth_count found]
    · simp [found]

theorem map_nth_prime : (List.range 64).map (Nat.nth Nat.Prime) = firstPrimes := by
  have listed := filter_range_eq Nat.Prime 312
  have count := congrArg List.length listed
  rw [filter_prime, List.length_map, List.length_range] at count
  rw [← filter_prime, listed, ← count]
  rfl

/-! ## Tables of roots -/

theorem rootWord_eq {degree n m : Nat} (proper : degree ≠ 0) (low : m ^ degree ≤ n * 2 ^ (32 * degree))
    (high : n * 2 ^ (32 * degree) < (m + 1) ^ degree) : rootWord degree n = BitVec.ofNat 32 m := by
  rw [rootWord]
  generalize root : (n : ℝ) ^ (1 / degree : ℝ) = x
  have nonneg : 0 ≤ x := root ▸ Real.rpow_nonneg n.cast_nonneg _
  have power : (2 ^ 32 * x) ^ degree = ((n * 2 ^ (32 * degree) : ℕ) : ℝ) := by
    rw [← root, one_div, mul_pow, Real.rpow_inv_natCast_pow n.cast_nonneg proper, ← pow_mul, mul_comm]
    push_cast
    rfl
  have floor : ⌊2 ^ 32 * x⌋₊ = m := by
    refine (Nat.floor_eq_iff (by positivity)).mpr ⟨?_, ?_⟩
    · rw [← pow_le_pow_iff_left₀ m.cast_nonneg (by positivity) proper, power]
      exact_mod_cast low
    · rw [← pow_lt_pow_iff_left₀ (by positivity) (by positivity) proper, power]
      exact_mod_cast high
  have whole : 2 ^ 32 * ⌊x⌋₊ ≤ m := by
    rw [← floor]
    apply Nat.le_floor
    have below := Nat.floor_le nonneg
    push_cast
    linarith
  have part : 2 ^ 32 * Int.fract x = 2 ^ 32 * x - ((2 ^ 32 * ⌊x⌋₊ : ℕ) : ℝ) := by
    rw [Int.fract, ← natCast_floor_eq_intCast_floor nonneg, mul_sub, Nat.cast_mul]
    norm_cast
  -- The whole part of the root is a multiple of the numbers of 32 bits.
  rw [part, Nat.floor_sub_natCast, floor]
  apply BitVec.eq_of_toNat_eq
  rw [BitVec.toNat_ofNat, BitVec.toNat_ofNat, Nat.sub_mul_mod whole]

/-- With some whole part before it, a word is the root of a number to 32 binary places. -/
def IsRoot (degree : Nat) (w : Word) (n : Nat) : Prop :=
  ∃ whole < 8, (whole * 2 ^ 32 + w.toNat) ^ degree ≤ n * 2 ^ (32 * degree) ∧
    n * 2 ^ (32 * degree) < (whole * 2 ^ 32 + w.toNat + 1) ^ degree

instance (degree : Nat) (w : Word) (n : Nat) : Decidable (IsRoot degree w n) :=
  inferInstanceAs (Decidable (∃ whole < 8, _ ∧ _))

theorem rootWord_eq_of_isRoot {degree n : Nat} {w : Word} (proper : degree ≠ 0) (root : IsRoot degree w n) :
    w = UInt32.ofBitVec (rootWord degree n) := by
  obtain ⟨whole, -, low, high⟩ := root
  rw [rootWord_eq proper low high, ← UInt32.toNat_inj]
  have small := w.toNat_lt
  change _ = (BitVec.ofNat 32 _).toNat
  rw [BitVec.toNat_ofNat]
  omega

theorem eq_map_of_isRoot {degree : Nat} {ws : List Word} {ns : List Nat} (proper : degree ≠ 0)
    (roots : List.Forall₂ (IsRoot degree) ws ns) : ws = ns.map fun n => UInt32.ofBitVec (rootWord degree n) := by
  induction roots with
  | nil => rfl
  | cons root _ ih => rw [List.map_cons, ← ih, ← rootWord_eq_of_isRoot proper root]

theorem roundConstants_eq : Digest.roundConstants = (List.range 64).map fun t => UInt32.ofBitVec (roundConstant t) := by
  have roots : List.Forall₂ (IsRoot 3) Digest.roundConstants firstPrimes := by decide +kernel
  rw [eq_map_of_isRoot (by decide) roots, ← map_nth_prime, List.map_map]
  rfl

theorem words_initial : Digest.Chain.initial.words =
    (List.range 8).map fun i => UInt32.ofBitVec (rootWord 2 (Nat.nth Nat.Prime i)) := by
  have roots : List.Forall₂ (IsRoot 2) Digest.Chain.initial.words (firstPrimes.take 8) := by decide +kernel
  rw [eq_map_of_isRoot (by decide) roots, ← map_nth_prime, ← List.map_take, List.map_map]
  rfl

end SecureHash

end SeedStream
