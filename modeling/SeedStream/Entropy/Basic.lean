import SeedStream.Failure
import SeedStream.Word

/-!
# Entropy sources

A native source of random words: it can be seeded anew and it can be asked for a number, which it
may fail to give. Asking changes the source even then. The numbers of a source need not fit a word.
-/

namespace SeedStream

/-- What every source of native randomness can do. -/
class EntropySource (σ : Type) where
  /-- Seed the source anew. -/
  reseed : σ → σ
  /-- Ask the source for its next number. -/
  draw : σ → Except Failure Int × σ

namespace EntropySource

variable {σ : Type} [EntropySource σ]

/-- Ask for a number of draws up to the first failure; `done` holds the draws so far, last first. -/
def drawListFrom (done : List Int) : Nat → σ → Except Failure (List Int) × σ
  | 0, s => (.ok done.reverse, s)
  | n + 1, s =>
    match draw s with
    | (.ok i, s) => drawListFrom (i :: done) n s
    | (.error e, s) => (.error e, s)

/-- Ask for a number of draws. -/
def drawList (n : Nat) (s : σ) : Except Failure (List Int) × σ :=
  drawListFrom [] n s

end EntropySource

end SeedStream
