import SeedStream.State

/-!
# Seeds

How a seed becomes a state. Four accumulators lie one, two, three and four fixed distances beyond
the seed, and each is mixed into one word of the state. An integer seed counts modulo `2 ^ 32`.
-/

namespace SeedStream

namespace Seed

/-- The distance between two accumulators. -/
def distance : Word := 0x9e3779b9

/-- Exclusive or with the word's own high bits. -/
def fold (k w : Word) : Word :=
  w ^^^ (w >>> k)

/-- Mix the bits of an accumulator. -/
def mix (w : Word) : Word :=
  fold 16 (fold 13 (fold 15 w * 0x85ebca6b) * 0xc2b2ae35)

/-- The word that an accumulator `k` distances beyond the seed is mixed into. -/
def slot (seed : Word) (k : Word) : Word :=
  mix (seed + k * distance)

end Seed

/-- The state that a seed expands to. -/
def State.ofWord (seed : Word) : State :=
  ⟨Seed.slot seed 1, Seed.slot seed 2, Seed.slot seed 3, Seed.slot seed 4⟩

/-- The state that an integer seed expands to. -/
def State.ofSeed (seed : Int) : State :=
  State.ofWord (Word.ofInt seed)

/-- Congruent seeds expand to one state. -/
theorem State.ofSeed_congr {a b : Int} (h : a % 0x100000000 = b % 0x100000000) : State.ofSeed a = State.ofSeed b := by
  rw [State.ofSeed, State.ofSeed, Word.ofInt_eq_iff.2 h]

end SeedStream
