import SeedStream.Entropy.Sequence
import SeedStream.Proofs.Blocks
import SeedStream.Reference

/-!
# The streams of references

A reference tells the state and the first outputs that its seed stands for. A generator with that seed has
this state and gives these outputs if the seed is not zero modulo `2 ^ 32`. Of the seeds that are, which
lead a generator to native mode, only zero itself is refused a reference; any other has that of a stream
that no generator follows.
-/

namespace SeedStream

open State

namespace Reference

theorem isZero_int (seed : Int) : isZero (.int seed) = decide (seed = 0) := by
  by_cases zero : seed = 0
  · rw [zero]
    rfl
  · have apart : compare seed 0 ≠ .eq := mt compare_eq_iff_eq.mp zero
    have order : (Value.int seed).compareInt? 0 = some (compare seed 0) := rfl
    rw [isZero, order, decide_eq_false zero]
    cases comparison : compare seed 0 with
    | eq => exact absurd comparison apart
    | lt | gt => rfl

/-- The reference of an integer seed: none for zero, and for any other that of the state it expands to. -/
theorem ofValues_int (seed count : Int) :
    ofValues (.int seed) (.int count) =
      if seed = 0 then .error (.value .zeroSeed) else .ok (describe seed count) := by
  rw [ofValues, isZero_int]
  by_cases zero : seed = 0
  · rw [if_pos zero, decide_eq_true zero, if_pos rfl]
  · rw [if_neg zero, decide_eq_false zero, if_neg Bool.false_ne_true]
    exact if_neg zero

end Reference

namespace Generator

/-- Drawing words one by one in deterministic mode gives the outputs of the core. -/
theorem performAll_next [Memory] {σ : Type} [EntropySource σ] (n : Nat) {g : Generator σ}
    (mode : g.mode = .deterministic) :
    g.performAll (List.replicate n .next) =
      some ((outputs n g.core).map fun w => .ok (.word w), { g with core := advance n g.core }) := by
  rw [performAll_replicate_next, draws_deterministic n mode, after_deterministic n mode, map_word_ok]

end Generator

/-- Integer seeds and their references. Only zero is refused. A seed that is not zero modulo `2 ^ 32` has as
    its reference the state that a generator with that seed has and the outputs that this gives, in a block or
    one by one. Any other seed leads a generator to native mode, and has, if it is not zero, the reference of
    the stream of zero. -/
theorem reference_of_seed [Memory] {σ : Type} [EntropySource σ] (g : Generator σ) (seed count : Int) :
    (Reference.ofValues (.int seed) (.int count) = .error (.value .zeroSeed) ↔ seed = 0) ∧
      ((g.setSeed seed).mode = .native ↔ seed ≡ 0 [ZMOD 2 ^ 32]) ∧
      (¬ seed ≡ 0 [ZMOD 2 ^ 32] → ∃ r ws h, Reference.ofValues (.int seed) (.int count) = .ok r ∧
        r.seed = seed ∧ r.state = (g.setSeed seed).core.words.map Word.hex ∧ r.outputs = ws.map Word.hex ∧
          (g.setSeed seed).fill count.toNat = (.ok ws, h) ∧
          (g.setSeed seed).performAll (List.replicate count.toNat .next) =
            some (ws.map fun w => .ok (.word w), h)) ∧
      (seed ≡ 0 [ZMOD 2 ^ 32] → seed ≠ 0 → ∃ r, Reference.ofValues (.int seed) (.int count) = .ok r ∧
        r.state = (ofSeed 0).words.map Word.hex ∧ r.outputs = (outputs count.toNat (ofSeed 0)).map Word.hex) := by
  rw [Reference.ofValues_int]
  refine ⟨?_, Generator.mode_setSeed_eq_native_iff, fun nonzero => ?_, fun zero proper => ?_⟩
  · by_cases zero : seed = 0 <;> simp [zero]
  · have proper : seed ≠ 0 := by
      rintro rfl
      exact nonzero (Int.ModEq.refl 0)
    have seeded := Generator.setSeed_of_nonzero nonzero g
    have mode : (g.setSeed seed).mode = .deterministic := by rw [seeded]
    have core : (g.setSeed seed).core = ofSeed seed := by rw [seeded]
    refine ⟨Reference.describe seed count, outputs count.toNat (ofSeed seed),
      { g.setSeed seed with core := advance count.toNat (ofSeed seed) }, if_neg proper, rfl, ?_, rfl, ?_, ?_⟩
    · rw [core]
      rfl
    · rw [Generator.fill_seeded _ mode, core]
    · rw [Generator.performAll_next _ mode, core]
  · have same : ofSeed seed = ofSeed 0 := ofSeed_congr zero
    refine ⟨Reference.describe seed count, if_neg proper, ?_, ?_⟩
    · rw [← same]
      rfl
    · rw [← same]
      rfl

section

attribute [local instance] Memory.standard

/-- The seed minus one, with the outputs of the seed `2 ^ 32 - 1`. -/
theorem reference_of_seed_minus_one :
    ¬ (-1 : Int) ≡ 0 [ZMOD 2 ^ 32] ∧
      ∃ r ws h, Reference.ofValues (.int (-1)) (.int 2) = .ok r ∧ r.seed = -1 ∧ r.outputs = ws.map Word.hex ∧
        ((Generator.ofSource ⟨[1], true, 0, 0, by decide⟩ : Generator Sequence).setSeed (-1)).fill 2 = (.ok ws, h) := by
  have nonzero : ¬ (-1 : Int) ≡ 0 [ZMOD 2 ^ 32] := by decide
  obtain ⟨r, ws, h, found, seed, -, outputs, block, -⟩ :=
    (reference_of_seed (Generator.ofSource ⟨[1], true, 0, 0, by decide⟩ : Generator Sequence) (-1) 2).2.2.1 nonzero
  exact ⟨nonzero, r, ws, h, found, seed, outputs, block⟩

end

/-- The seed `2 ^ 32` leads to native mode and is not refused a reference. -/
theorem reference_of_native_seed :
    ((Generator.ofSource ⟨[1], true, 0, 0, by decide⟩ : Generator Sequence).setSeed 0x100000000).mode = .native ∧
      ∃ r, Reference.ofValues (.int 0x100000000) (.int 1) = .ok r := by
  refine ⟨by decide, Reference.describe 0x100000000 1, ?_⟩
  rw [Reference.ofValues_int]
  exact if_neg (by decide)

end SeedStream
