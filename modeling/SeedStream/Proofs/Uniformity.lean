import Mathlib.Data.Nat.Count
import Mathlib.Data.Int.CardIntervalMod
import Mathlib.Data.Set.Card
import SeedStream.Proofs.Rejection

/-!
# Numbers below a bound are uniform

A draw below a bound throws words away until one is below the largest multiple of the bound, and answers
with the remainder of that one. Below the multiple every remainder occurs equally often, and above it there
are fewer words than the bound and fewer than half of all.
-/

namespace SeedStream

namespace Word

theorem ncard_toNat_mem {s : Finset Nat} (small : ∀ i ∈ s, i < 2 ^ 32) : {w : Word | w.toNat ∈ s}.ncard = s.card := by
  have image : UInt32.toNat '' {w : Word | w.toNat ∈ s} = s := by
    ext i
    constructor
    · rintro ⟨w, member, rfl⟩
      exact member
    · intro member
      have value : (UInt32.ofNat i).toNat = i := UInt32.toNat_ofNat_of_lt' (small i member)
      exact ⟨UInt32.ofNat i, by simpa [value] using member, value⟩
  have injective : Function.Injective UInt32.toNat := fun a b same => UInt32.toNat_inj.mp same
  rw [← Set.ncard_image_of_injective _ injective, image, Set.ncard_coe_finset]

end Word

namespace Generator

variable {σ : Type} [EntropySource σ]

/-! ## Counting words -/

/-- Up to a multiple of the bound every remainder occurs equally often. -/
theorem count_remainder (q : Nat) {n r : Nat} (below : r < n) :
    ((Finset.range (q * n)).filter fun i => i % n = r).card = q := by
  have positive : 0 < n := Nat.zero_lt_of_lt below
  have congruent (i : Nat) : i % n = r ↔ i ≡ r [MOD n] := by rw [Nat.ModEq, Nat.mod_eq_of_lt below]
  simp only [congruent]
  rw [← Nat.count_eq_card_filter_range, Nat.count_modEq_card _ positive, Nat.mul_div_cancel _ positive]
  simp

theorem ncard_accepted {n r : Nat} (below : r < n) :
    {w : Word | w.toNat < 2 ^ 32 / n * n ∧ w.toNat % n = r}.ncard = 2 ^ 32 / n := by
  have count := count_remainder (2 ^ 32 / n) below
  rw [← Word.ncard_toNat_mem] at count
  · simpa using count
  · intro i member
    have inside := (Finset.mem_filter.mp member).1
    exact Nat.lt_of_lt_of_le (Finset.mem_range.mp inside) (Nat.div_mul_le_self _ _)

theorem ncard_rejected (n : Nat) : {w : Word | 2 ^ 32 / n * n ≤ w.toNat}.ncard = 2 ^ 32 % n := by
  have count : (Finset.Ico (2 ^ 32 / n * n) (2 ^ 32)).card = 2 ^ 32 % n := by
    have := Nat.div_add_mod' (2 ^ 32) n
    rw [Nat.card_Ico]
    omega
  rw [← Word.ncard_toNat_mem fun i member => (Finset.mem_Ico.mp member).2] at count
  rw [← count]
  congr 1
  ext w
  simp [w.toNat_lt]

theorem half_of_rejected {n : Nat} (positive : 0 < n) (small : n ≤ 2 ^ 32) : 2 ^ 32 % n < 2 ^ 31 := by
  have rest := Nat.mod_lt (2 ^ 32) positive
  have whole := Nat.div_add_mod (2 ^ 32) n
  by_cases low : n ≤ 2 ^ 31
  · omega
  · -- one multiple of the bound leaves less than the other half
    have one : n * 1 ≤ n * (2 ^ 32 / n) := Nat.mul_le_mul_left n (Nat.div_pos small positive)
    omega

/-! ## The draw below a bound -/

/-- A draw below an integer bound answers with the remainder of the word that its search gives. -/
theorem perform_below_eq_some_ok_iff [Memory] {n : Nat} (positive : 0 < n) (small : n ≤ 2 ^ 32) {g h : Generator σ}
    {answer : Answer} :
    g.perform (.below (.int n)) = some (.ok answer, h) ↔
      ∃ v x : Word, g.drawUntil (fun w => w.toNat < 2 ^ 32 / n * n) maxDraws = some (.ok v, h) ∧
        answer = .word x ∧ x.toNat = v.toNat % n ∧ x.toNat < n := by
  have remainder (v : Word) : (UInt32.ofNat (v.toNat % n)).toNat = v.toNat % n :=
    UInt32.toNat_ofNat_of_lt' (Nat.lt_of_le_of_lt (Nat.mod_le _ _) v.toNat_lt)
  rw [perform_below (boundOf_int positive small), Option.map_eq_some_iff]
  constructor
  · rintro ⟨⟨last, t⟩, found, same⟩
    obtain ⟨answered, rfl⟩ := Prod.mk.inj same
    cases last with
    | error e => cases answered
    | ok v =>
      cases answered
      exact ⟨v, _, found, rfl, remainder v, (remainder v).symm ▸ Nat.mod_lt _ positive⟩
  · rintro ⟨v, x, found, rfl, value, -⟩
    have same : UInt32.ofNat (v.toNat % n) = x := UInt32.toNat_inj.mp ((remainder v).trans value.symm)
    exact ⟨(.ok v, h), found, by rw [← same]; rfl⟩

/-- A draw below a bound from one to `2 ^ 32`, in either mode and over any source. What ends its search is
    the first word below the largest multiple of the bound, and the words up to that one are all it takes;
    the answer is the remainder of that word. Each number below the bound is the remainder of the same
    number of accepted words, and the words thrown away are fewer than the bound and fewer than half. -/
theorem below_uniform [Memory] {n : Nat} (positive : 0 < n) (small : n ≤ 2 ^ 32) :
    (∀ (σ : Type) [EntropySource σ] (g h : Generator σ),
      (∀ fuel v, g.drawUntil (fun w => w.toNat < 2 ^ 32 / n * n) fuel = some (.ok v, h) ↔
        v.toNat < 2 ^ 32 / n * n ∧ ∃ rejected : List Word, rejected.length < fuel ∧
          (∀ w ∈ rejected, 2 ^ 32 / n * n ≤ w.toNat) ∧
          draws (rejected.length + 1) g = (rejected ++ [v]).map .ok ∧ h = after (rejected.length + 1) g) ∧
      ∀ answer, g.perform (.below (.int n)) = some (.ok answer, h) ↔
        ∃ v x : Word, g.drawUntil (fun w => w.toNat < 2 ^ 32 / n * n) maxDraws = some (.ok v, h) ∧
          answer = .word x ∧ x.toNat = v.toNat % n ∧ x.toNat < n) ∧
      (∀ r < n, {w : Word | w.toNat < 2 ^ 32 / n * n ∧ w.toNat % n = r}.ncard = 2 ^ 32 / n) ∧
      {w : Word | 2 ^ 32 / n * n ≤ w.toNat}.ncard < 2 ^ 31 ∧ {w : Word | 2 ^ 32 / n * n ≤ w.toNat}.ncard < n := by
  refine ⟨fun σ _ g h => ⟨fun fuel v => ?_, fun answer => perform_below_eq_some_ok_iff positive small⟩,
    fun r below => ncard_accepted below, ?_, ?_⟩
  · simp [drawUntil_eq_some_ok_iff]
  · rw [ncard_rejected]
    exact half_of_rejected positive small
  · rw [ncard_rejected]
    exact Nat.mod_lt _ positive

section

attribute [local instance] Memory.standard

/-- A bound just above half of the words, over two native words that are met from their end: the first is
    thrown away. -/
theorem below_uniform_above_half :
    let g : Generator Sequence := ⟨.native, State.zero, ⟨[0xffffffff, 0x80000000], true, 2, 1, by decide⟩⟩
    0 < 0x80000001 ∧ 0x80000001 ≤ 2 ^ 32 ∧
      g.perform (.below (.int 0x80000001)) = some (.ok (.word 0x80000000), after 2 g) ∧
      {w : Word | w.toNat < 2 ^ 32 / 0x80000001 * 0x80000001 ∧ w.toNat % 0x80000001 = 0x80000000}.ncard = 1 ∧
      {w : Word | 2 ^ 32 / 0x80000001 * 0x80000001 ≤ w.toNat}.ncard < 2 ^ 31 := by
  intro g
  obtain ⟨runs, each, few, -⟩ := below_uniform (n := 0x80000001) (by decide) (by decide)
  obtain ⟨search, answers⟩ := runs Sequence g (after 2 g)
  have found := (search maxDraws 0x80000000).mpr ⟨by decide, [0xffffffff], by decide, by simp, rfl, rfl⟩
  refine ⟨by decide, by decide, ?_, (each 0x80000000 (by decide)).trans (by norm_num), few⟩
  exact (answers _).mpr ⟨0x80000000, 0x80000000, found, rfl, by decide, by decide⟩

end

end Generator

end SeedStream
