import SeedStream.Proofs.Superposition
import SeedStream.Request.Core
import SeedStream.Scan

/-!
# Rows of lanes

What lanes do, row by row: a row of seeded lanes is the seeded state, and a step of lanes is a step of
each row. Rows of seeds come from lists of integers that 64 bits hold.
-/

namespace SeedStream

namespace Lanes

variable {n : Nat}

theorem row_next (l : Lanes n) (i : Fin n) : l.next.row i = (l.row i).next := by
  simp [row, next, xor, getElem_rotateLeft, State.next]

theorem getElem_output (l : Lanes n) (i : Nat) (inside : i < n) : l.output[i] = (l.row ⟨i, inside⟩).output := by
  simp [row, output, getElem_rotateLeft, State.output]

theorem getElem_mix (a : Vector Word n) (i : Nat) (inside : i < n) : (mix a)[i] = Seed.mix a[i] := by
  simp [mix, fold, xor, Seed.mix, Seed.fold]

/-- A row of seeded columns is the state of its seed: one distance more each time comes to the same as
    as many distances at once. -/
theorem row_ofWords (seeds : Vector Word n) (i : Nat) (inside : i < n) :
    (ofWords seeds).row ⟨i, inside⟩ = State.ofWord seeds[i] := by
  have two : (2 : Word) * Seed.distance = Seed.distance + Seed.distance := by decide
  have three : (3 : Word) * Seed.distance = Seed.distance + (Seed.distance + Seed.distance) := by decide
  have four : (4 : Word) * Seed.distance =
      Seed.distance + (Seed.distance + (Seed.distance + Seed.distance)) := by decide
  simp only [row, ofWords, State.ofWord, Seed.slot, Fin.getElem_fin, getElem_mix, Vector.getElem_map,
    UInt32.one_mul, two, three, four, UInt32.add_assoc]

theorem row_ofSeeds (seeds : List Int) (i : Fin seeds.length) : (ofSeeds seeds).row i = State.ofSeed seeds[i] := by
  rw [ofSeeds, row_ofWords, State.ofSeed]
  simp

theorem output_ofSeeds (seeds : List Int) :
    (ofSeeds seeds).output.toList = seeds.map fun seed => (State.ofSeed seed).output := by
  apply List.ext_getElem
  · simp
  · intro i inside _
    have bound : i < seeds.length := by simpa using inside
    have output := getElem_output (ofSeeds seeds) i bound
    rw [row_ofSeeds] at output
    simpa using output

/-! ## Marks -/

theorem zeroRows_of_nonzero {l : Lanes n} (nonzero : ∀ i, l.row i ≠ State.zero) :
    l.zeroRows = Vector.replicate n false := by
  apply Vector.ext
  intro i inside
  simpa [zeroRows, State.isZero] using nonzero ⟨i, inside⟩

theorem markZero_of_nonzero (steps : Nat) {l : Lanes n} (nonzero : ∀ i, l.row i ≠ State.zero)
    (marked : Vector Bool n) : markZero steps l marked = marked := by
  induction steps generalizing l marked with
  | zero => rfl
  | succ steps ih =>
    have later : ∀ i, l.next.row i ≠ State.zero := by
      intro i leads
      rw [row_next] at leads
      exact nonzero i (State.next_eq_zero_iff.mp leads)
    rw [markZero, ih later, zeroRows_of_nonzero later]
    apply Vector.ext
    intro i inside
    simp

end Lanes

/-! ## Rows of seeds as a caller gives them -/

/-- An integer that 64 bits with a sign hold. -/
def IsSigned64 (i : Int) : Prop := -0x8000000000000000 ≤ i ∧ i < 0x8000000000000000

namespace Value

theorem asLong_int {i : Int} (fits : IsSigned64 i) : (int i).asLong = .ok i := by
  rw [asLong, toInteger_int]
  exact if_pos fits

theorem depthOfItems_ints (items : List Int) : depthOfItems (items.map int) = 0 := by
  induction items with
  | nil => rfl
  | cons i rest ih => simp [depthOfItems, depth, ih]

theorem leavesOfItems_ints (items : List Int) : leavesOfItems (items.map int) = items.map int := by
  induction items with
  | nil => rfl
  | cons i rest ih => simp [leavesOfItems, leaves, ih]

theorem row_ints (items : List Int) : (list (items.map int)).row = .ok (items.map int) := by
  rw [row, depth, depthOfItems_ints, leaves, leavesOfItems_ints]
  exact if_neg (by decide)

end Value

theorem Request.seedRow_ints {seeds : List Int} (fit : ∀ seed ∈ seeds, IsSigned64 seed) :
    seedRow (.list (seeds.map .int)) = .ok seeds := by
  have taken : (seeds.map Value.int).mapM Value.asLong = .ok (seeds.map id) :=
    Value.mapM_map_eq_ok fun seed member => Value.asLong_int (fit seed member)
  rw [List.map_id] at taken
  rw [seedRow, Value.row_ints]
  exact taken

end SeedStream
