import SeedStream.Proofs.LaneRows
import SeedStream.Request.Scan

/-!
# Where the streams of two seeds part

A seed goes into its first output without loss, so two seeds that are not congruent modulo `2 ^ 32`
give streams that differ at once. Comparing streams one by one, or first outputs in lanes, therefore
tells congruent seeds from all others and nothing else.
-/

namespace SeedStream

theorem State.output_ofSeed_eq_iff {a b : Int} :
    (State.ofSeed a).output = (State.ofSeed b).output ↔ a ≡ b [ZMOD 2 ^ 32] := by
  rw [State.output_eq_iff, ← Word.ofInt_eq_iff_modEq]
  exact Seed.slot_inj

namespace Scan

theorem firstDifference_of_congruent {a b : Int} (congruent : a ≡ b [ZMOD 2 ^ 32]) (limit : Int) :
    firstDifference (State.ofSeed a) (State.ofSeed b) limit = none := by
  rw [firstDifference, State.ofSeed_congr congruent]
  exact firstDifferenceFrom_self 0 limit.toNat _

theorem firstDifference_of_not_congruent {a b : Int} (apart : ¬ a ≡ b [ZMOD 2 ^ 32]) {limit : Int}
    (asked : 1 ≤ limit) : firstDifference (State.ofSeed a) (State.ofSeed b) limit = some 0 := by
  obtain ⟨fuel, count⟩ : ∃ fuel, limit.toNat = fuel + 1 := ⟨limit.toNat - 1, by omega⟩
  rw [firstDifference, count, firstDifferenceFrom, if_neg (mt State.output_ofSeed_eq_iff.mp apart)]

/-- Where two seeds part among a number of outputs, if they do. -/
theorem firstDifference_ofSeed (a b limit : Int) :
    firstDifference (State.ofSeed a) (State.ofSeed b) limit =
      if a ≡ b [ZMOD 2 ^ 32] ∨ limit < 1 then none else some 0 := by
  split
  case isTrue early =>
    rcases early with congruent | unasked
    · exact firstDifference_of_congruent congruent limit
    · rw [firstDifference, show limit.toNat = 0 by omega]
      rfl
  case isFalse later =>
    exact firstDifference_of_not_congruent (fun congruent => later (.inl congruent)) (by omega)

/-- First outputs in lanes are equal where the seeds are congruent. -/
theorem firstOutputCollisions?_eq {as bs : List Int} (equal : as.length = bs.length) :
    firstOutputCollisions? as bs = some (List.zipWith (fun a b => decide (a ≡ b [ZMOD 2 ^ 32])) as bs) := by
  rw [firstOutputCollisions?, if_pos equal, Lanes.output_ofSeeds, Lanes.output_ofSeeds, List.zipWith_map]
  congr 2
  funext a b
  rw [beq_eq_decide, decide_eq_decide]
  exact State.output_ofSeed_eq_iff

end Scan

/-- Two seeds that are not congruent part at the first output, and only such seeds part. A comparison
    of two streams and one of first outputs in lanes tell exactly these seeds apart. -/
theorem seeds_part_at_first_output :
    (∀ a b : Int, (State.ofSeed a).step.1 = (State.ofSeed b).step.1 ↔ a ≡ b [ZMOD 2 ^ 32]) ∧
      (∀ a b limit : Int, Request.firstDivergence (.int a) (.int b) (.int limit) =
        .ok (if a ≡ b [ZMOD 2 ^ 32] ∨ limit < 1 then none else some 0)) ∧
      ∀ as bs : List Int, as.length = bs.length → (∀ seed ∈ as ++ bs, IsSigned64 seed) →
        Request.firstOutputCollisions (.list (as.map .int)) (.list (bs.map .int)) =
          .ok (List.zipWith (fun a b => decide (a ≡ b [ZMOD 2 ^ 32])) as bs) := by
  refine ⟨fun a b => State.output_ofSeed_eq_iff, fun a b limit => ?_, ?_⟩
  · rw [← Scan.firstDifference_ofSeed]
    rfl
  · intro as bs equal fit
    have left := Request.seedRow_ints fun seed member => fit seed (List.mem_append_left bs member)
    have right := Request.seedRow_ints fun seed member => fit seed (List.mem_append_right as member)
    simp only [Request.firstOutputCollisions, left, right, bind, Except.bind,
      Scan.firstOutputCollisions?_eq equal]

/-- Seeds of both signs in lanes, of which the second pair and the last are congruent. -/
theorem seeds_part_at_first_output_signed :
    (∀ seed ∈ [1, -1, 0, 0x100000007] ++ [2, 0xffffffff, 1, 7], IsSigned64 seed) ∧
      Request.firstOutputCollisions (.list ([1, -1, 0, 0x100000007].map .int))
        (.list ([2, 0xffffffff, 1, 7].map .int)) = .ok [false, true, false, true] := by
  have fit : ∀ seed ∈ [1, -1, 0, 0x100000007] ++ [2, 0xffffffff, 1, 7], IsSigned64 seed := by
    simp [IsSigned64]
  exact ⟨fit, seeds_part_at_first_output.2.2 [1, -1, 0, 0x100000007] [2, 0xffffffff, 1, 7] rfl fit⟩

end SeedStream
