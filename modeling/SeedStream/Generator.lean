import SeedStream.Entropy.Basic
import SeedStream.Fraction
import SeedStream.Seed

/-!
# The dual-mode generator

A generator that hands out the words of a native source until it is given a seed, and those of the
core generator from then on. A seed that is zero modulo `2 ^ 32` leads back to the native source
and seeds it anew; any other fixes the stream.
-/

namespace SeedStream

/-- Where a generator takes its words from. -/
inductive Mode
  | native
  | deterministic
  deriving DecidableEq, Repr

/-- How a mode is written. -/
def Mode.text : Mode → String
  | native => "native"
  | deterministic => "deterministic"

/-- A generator over a native source. -/
structure Generator (σ : Type) where
  mode : Mode
  /-- The core generator, which only deterministic mode moves. -/
  core : State
  /-- The native source, which only native mode moves. -/
  source : σ

namespace Generator

variable {σ : Type} [EntropySource σ]

/-- Choose the mode by a seed and seed the generator that belongs to it. -/
def setSeed (seed : Int) (g : Generator σ) : Generator σ :=
  if Word.ofInt seed = 0 then
    { g with mode := .native, source := EntropySource.reseed g.source }
  else { g with mode := .deterministic, core := State.ofSeed seed }

/-- A generator in native mode, its source seeded anew. -/
def ofSource (source : σ) : Generator σ :=
  ⟨.native, State.ofSeed 1, EntropySource.reseed source⟩

/-- A generator with a seed, if one is given. -/
def make (source : σ) (seed : Option Int) : Generator σ :=
  match seed with
  | none => ofSource source
  | some seed => (ofSource source).setSeed seed

/-- The next word. -/
def draw (g : Generator σ) : Except Failure Word × Generator σ :=
  match g.mode with
  | .deterministic => (.ok g.core.output, { g with core := g.core.next })
  | .native =>
    match EntropySource.draw g.source with
    | (.ok i, source) => (.ok (Word.ofInt i), { g with source })
    | (.error e, source) => (.error e, { g with source })

/-- Draw words in a row up to the first failure; `done` holds those so far, last first. -/
def fillFrom (done : List Word) : Nat → Generator σ → Except Failure (List Word) × Generator σ
  | 0, g => (.ok done.reverse, g)
  | n + 1, g =>
    match g.draw with
    | (.ok w, g) => fillFrom (w :: done) n g
    | (.error e, g) => (.error e.inRow, g)

/-- The next words: a run of the core generator as a whole, or as many draws of the source. -/
def fill (n : Nat) (g : Generator σ) : Except Failure (List Word) × Generator σ :=
  match g.mode with
  | .deterministic =>
    let (ws, core) := g.core.run n
    (.ok ws, { g with core })
  | .native => fillFrom [] n g

/-- The number of words that are accepted for a draw below `n`: the largest multiple of `n` that
    is no more than the number of words. -/
def acceptLimit (n : Nat) : Nat :=
  0x100000000 / n * n

/-- Draw until a word passes a test, at most `fuel` times. -/
def drawUntil (accepts : Word → Bool) : Nat → Generator σ → Option (Except Failure Word × Generator σ)
  | 0, _ => none
  | fuel + 1, g =>
    match g.draw with
    | (.ok w, g) => if accepts w then some (.ok w, g) else drawUntil accepts fuel g
    | (.error e, g) => some (.error e, g)

/-- The most draws that one number below a bound may take. The core generator has fewer states. -/
def maxDraws : Nat := 0x100000000000000000000000000000000

/-- A number below `n`, all equally likely: the remainder of the first word below the limit. There
    is none if no word is accepted within `maxDraws` draws. -/
def below (n : Nat) (g : Generator σ) : Option (Except Failure Word × Generator σ) :=
  (drawUntil (fun w => w.toNat < acceptLimit n) maxDraws g).map fun r =>
    (r.1.map fun w => UInt32.ofNat (w.toNat % n), r.2)

/-- A fraction from zero up to one, of two words. -/
def fraction (g : Generator σ) : Except Failure Fraction × Generator σ :=
  match g.draw with
  | (.error e, g) => (.error e, g)
  | (.ok a, g) =>
    match g.draw with
    | (.error e, g) => (.error e, g)
    | (.ok b, g) => (.ok (Fraction.ofWords a b), g)

/-- A draw in deterministic mode is a step of the core generator. -/
theorem draw_deterministic {g : Generator σ} (h : g.mode = .deterministic) :
    g.draw = (.ok g.core.output, { g with core := g.core.next }) := by
  simp [draw, h]

/-- A draw does not change the mode. -/
theorem mode_draw (g : Generator σ) : g.draw.2.mode = g.mode := by
  unfold draw
  split
  · rfl
  · split <;> rfl

end Generator

end SeedStream
