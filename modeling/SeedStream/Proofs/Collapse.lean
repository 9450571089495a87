import SeedStream.Proofs.LaneRows
import SeedStream.Request.Scan

/-!
# Seeded states never collapse

The words of a seeded state are mixed at different distances from the seed, so they differ and are not
all zero, and a step keeps it so. No scan of seeded states finds a zero state, be it one by one or in
lanes.
-/

namespace SeedStream

namespace State

/-- A seeded state is not zero: its first two words differ. -/
theorem ofSeed_ne_zero (seed : Int) : State.ofSeed seed ≠ zero := by
  intro collapsed
  have first : Seed.slot (Word.ofInt seed) 1 = 0 := congrArg State.s0 collapsed
  have second : Seed.slot (Word.ofInt seed) 2 = 0 := congrArg State.s1 collapsed
  exact absurd (Seed.slot_inj_distance.mp (first.trans second.symm)) (by decide)

theorem advance_ofSeed_ne_zero (seed : Int) (k : Nat) : advance k (State.ofSeed seed) ≠ zero :=
  mt advance_eq_zero_iff.mp (ofSeed_ne_zero seed)

theorem isZero_eq_false {s : State} (nonzero : s ≠ zero) : s.isZero = false :=
  beq_eq_false_iff_ne.mpr nonzero

end State

namespace Scan

theorem firstZeroFrom_of_nonzero (index fuel : Nat) {s : State} (nonzero : s ≠ State.zero) :
    firstZeroFrom index fuel s = none := by
  induction fuel generalizing index s with
  | zero => rfl
  | succ fuel ih =>
    have later : s.next ≠ State.zero := mt State.next_eq_zero_iff.mp nonzero
    rw [firstZeroFrom, State.isZero_eq_false later]
    exact ih (index + 1) later

theorem firstZero_of_nonzero {s : State} (nonzero : s ≠ State.zero) (steps : Int) : firstZero s steps = none := by
  rw [firstZero, State.isZero_eq_false nonzero]
  exact firstZeroFrom_of_nonzero 0 steps.toNat nonzero

theorem zeroStates_eq (seeds : List Int) (steps : Int) :
    zeroStates seeds steps = List.replicate seeds.length false := by
  have nonzero : ∀ i, (Lanes.ofSeeds seeds).row i ≠ State.zero := by
    intro i
    rw [Lanes.row_ofSeeds]
    exact State.ofSeed_ne_zero _
  rw [zeroStates, Lanes.markZero_of_nonzero _ nonzero, Lanes.zeroRows_of_nonzero nonzero]
  exact Vector.toList_replicate

end Scan

namespace Request

theorem firstZeroState_of_nonzero {seed : Value} {s : State} (start : seededState seed = .ok s)
    (nonzero : s ≠ State.zero) (steps : Int) : firstZeroState seed (.int steps) = .ok none := by
  simp only [firstZeroState, start, bind, Except.bind, State.isZero_eq_false nonzero, Value.asIndex_int,
    Scan.firstZero_of_nonzero nonzero]
  rfl

end Request

/-- No number of steps leads a seeded state to zero, and neither a scan of one seed nor one of a row of
    seeds in lanes finds a step that does. -/
theorem seeded_never_zero :
    (∀ (seed : Int) (k : Nat), State.advance k (State.ofSeed seed) ≠ State.zero) ∧
      (∀ seed steps : Int, Request.firstZeroState (.int seed) (.int steps) = .ok none) ∧
      ∀ (seeds : List Int) (steps : Int), (∀ seed ∈ seeds, IsSigned64 seed) →
        Request.zeroStates (.list (seeds.map .int)) (.int steps) =
          .ok (List.replicate seeds.length false) := by
  refine ⟨State.advance_ofSeed_ne_zero, fun seed steps => ?_, fun seeds steps fit => ?_⟩
  · exact Request.firstZeroState_of_nonzero rfl (State.ofSeed_ne_zero seed) steps
  · simp only [Request.zeroStates, Request.seedRow_ints fit, bind, Except.bind, Value.asIndex_int,
      Scan.zeroStates_eq]
    rfl

/-- The seeds at both ends of the 64 bits, the seed zero and a negative number of steps. -/
theorem seeded_never_zero_ends :
    (∀ seed ∈ [-0x8000000000000000, 0, 0x7fffffffffffffff], IsSigned64 seed) ∧
      Request.zeroStates (.list ([-0x8000000000000000, 0, 0x7fffffffffffffff].map .int)) (.int (-1)) =
        .ok [false, false, false] := by
  have fit : ∀ seed ∈ [-0x8000000000000000, 0, 0x7fffffffffffffff], IsSigned64 seed := by
    simp [IsSigned64]
  exact ⟨fit, seeded_never_zero.2.2 _ (-1) fit⟩

end SeedStream
