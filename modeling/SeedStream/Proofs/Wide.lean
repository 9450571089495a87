import Mathlib.Data.Int.Bitwise
import SeedStream.CoreOperation

/-!
# Wide numbers

The core generator and the dual-mode generator on integers of any size and sign. A state is a list of
integers, and no type keeps it at four words of 32 bits. An integer is cut down to its low 32 bits where it
comes from outside, and after a sum, a product, a shift to the left and a rotation; after an exclusive or and
a shift to the right it is not. A run breaks where a state is too short for a step and where an array of
words is given a number that is no word.
-/

namespace SeedStream.Wide

/-! ## Numbers -/

/-- The low 32 bits of an integer. -/
def cut (i : Int) : Int :=
  Int.land i 0xffffffff

/-- The low 32 bits moved to the left by `k`, those that leave coming back on the right. -/
def rotateLeft (i : Int) (k : Nat) : Int :=
  cut (Int.lor (cut i <<< k) (cut i >>> (32 - k)))

/-- Exclusive or with the integer's own high bits. -/
def fold (k : Nat) (i : Int) : Int :=
  Int.xor i (i >>> k)

/-- Mix the bits of an accumulator. -/
def mix (i : Int) : Int :=
  fold 16 (cut (fold 13 (cut (fold 15 i * 0x85ebca6b)) * 0xc2b2ae35))

/-! ## The core generator -/

/-- The words of a number of accumulators, each a fixed distance beyond the one before. -/
def slotsFrom (accumulator : Int) : Nat → List Int
  | 0 => []
  | n + 1 =>
    let next := cut (accumulator + 0x9e3779b9)
    mix next :: slotsFrom next n

/-- The state that a seed expands to. -/
def seeded (seed : Int) : List Int :=
  (slotsFrom (cut seed) 4).map cut

/-- What breaks a run. -/
inductive Break
  /-- A step finds fewer than four words. -/
  | shortState
  /-- An array of words is given a number that is no word. -/
  | overflow

/-- One step: the output and the state after it. -/
def step : List Int → Except Break (Int × List Int)
  | s0 :: s1 :: s2 :: s3 :: rest =>
    let output := cut (rotateLeft (cut (s1 * 5)) 7 * 9)
    let t := cut (s1 <<< (9 : Nat))
    let s2 := Int.xor s2 s0
    let s3 := Int.xor s3 s1
    let s1 := Int.xor s1 s2
    let s0 := Int.xor s0 s3
    .ok (output, s0 :: s1 :: Int.xor s2 t :: rotateLeft s3 11 :: rest)
  | _ => .error .shortState

/-- A number put into an array of words. -/
def store (i : Int) : Except Break Int :=
  if 0 ≤ i ∧ i < 0x100000000 then .ok i else .error .overflow

/-- An array of the outputs of a number of steps, and the state after them. -/
def block : Nat → List Int → Except Break (List Int × List Int)
  | 0, s => .ok ([], s)
  | n + 1, s => do
    let (i, s) ← step s
    let w ← store i
    let (ws, s) ← block n s
    .ok (w :: ws, s)

/-- The state of given words. -/
def replaced (words : Value) : Except Failure (List Int) := do
  let items ← words.sizedItems
  if items.length ≠ 4 then .error (.value (.wordCount items.length))
  else .ok ((← items.mapM Value.toInteger).map cut)

/-- What an operation answers. -/
inductive Answer
  | nothing
  | number (i : Int)
  | numbers (is : List Int)
  | real (x : Float)

/-- The numbers of an answer. -/
def Answer.values : Answer → List Int
  | number i => [i]
  | numbers is => is
  | _ => []

/-- Ask the core generator for an operation. -/
def performCore [Memory] (op : CoreOperation) (s : List Int) : Except Break (Except Failure Answer × List Int) :=
  match op with
  | .seed seed =>
    match seed.asBits with
    | .ok seed => .ok (.ok .nothing, seeded seed)
    | .error e => .ok (.error e, s)
  | .replace words =>
    match replaced words with
    | .ok t => .ok (.ok .nothing, t)
    | .error e => .ok (.error e, s)
  | .next => do
    let (i, s) ← step s
    .ok (.ok (.number i), s)
  | .fill count =>
    match Generator.coreCount count with
    | .ok n => do
      let (is, s) ← block n s
      .ok (.ok (.numbers is), s)
    | .error e => .ok (.error e, s)

/-- Ask the core generator for operations one after another, also after a failure. -/
def performCoreAll [Memory] (ops : List CoreOperation) (s : List Int) :
    Except Break (List (Except Failure Answer) × List Int) :=
  match ops with
  | [] => .ok ([], s)
  | op :: rest => do
    let (answer, s) ← performCore op s
    let (answers, s) ← performCoreAll rest s
    .ok (answer :: answers, s)

/-! ## The dual-mode generator -/

/-- A generator over a native source. -/
structure Dual (σ : Type) where
  mode : Mode
  core : List Int
  source : σ

namespace Dual

variable {σ : Type} [EntropySource σ]

/-- Choose the mode by a seed and seed the generator that belongs to it. -/
def setSeed (seed : Int) (g : Dual σ) : Dual σ :=
  if cut seed = 0 then { g with mode := .native, source := EntropySource.reseed g.source }
  else { g with mode := .deterministic, core := seeded (cut seed) }

/-- A generator with a seed, if one is given, and else in native mode. -/
def make (source : σ) (seed : Option Int) : Dual σ :=
  let g : Dual σ := ⟨.native, seeded 1, EntropySource.reseed source⟩
  match seed with
  | none => g
  | some seed => g.setSeed seed

/-- The next number. -/
def draw (g : Dual σ) : Except Break (Except Failure Int × Dual σ) :=
  match g.mode with
  | .deterministic => do
    let (i, core) ← step g.core
    .ok (.ok i, { g with core })
  | .native =>
    let (r, source) := EntropySource.draw g.source
    .ok (r.map cut, { g with source })

/-- Put drawn numbers into an array of words up to the first failure; `done` holds those so far, last
    first. -/
def storeFrom (done : List Int) : Nat → Dual σ → Except Break (Except Failure (List Int) × Dual σ)
  | 0, g => .ok (.ok done.reverse, g)
  | n + 1, g => do
    match ← g.draw with
    | (.ok i, g) =>
      let w ← store i
      storeFrom (w :: done) n g
    | (.error e, g) => .ok (.error e.inRow, g)

/-- The next numbers: an array of the core generator, or of as many draws of the source. -/
def fill (n : Nat) (g : Dual σ) : Except Break (Except Failure (List Int) × Dual σ) :=
  match g.mode with
  | .deterministic => do
    let (is, core) ← block n g.core
    .ok (.ok is, { g with core })
  | .native => storeFrom [] n g

/-- Draw until a number passes a test, at most `fuel` times. -/
def drawUntil (accepts : Int → Bool) : Nat → Dual σ → Except Break (Option (Except Failure Int × Dual σ))
  | 0, _ => .ok none
  | fuel + 1, g => do
    match ← g.draw with
    | (.ok i, g) => if accepts i then .ok (some (.ok i, g)) else drawUntil accepts fuel g
    | (.error e, g) => .ok (some (.error e, g))

/-- A number below `n`: the remainder of the first number below the limit. -/
def below (n : Nat) (g : Dual σ) : Except Break (Option (Except Failure Int × Dual σ)) := do
  let found ← g.drawUntil (fun i => i < Generator.acceptLimit n) Generator.maxDraws
  .ok (found.map fun r => (r.1.map fun (i : Int) => i % n, r.2))

/-- A double below a real bound: the remainder of the first number below the limit. -/
def belowReal (num den : Nat) (g : Dual σ) : Except Break (Option (Except Failure Float × Dual σ)) := do
  let limit := Value.real (Generator.realLimit num den)
  let found ← g.drawUntil (fun i => limit.compareInt? i = some .gt) Generator.maxDraws
  .ok (found.map fun r => (r.1.map fun (i : Int) => Double.ofRatio false (i * den % num).toNat den, r.2))

/-- A fraction from zero up to one, of two numbers. -/
def fraction (g : Dual σ) : Except Break (Except Failure Float × Dual σ) := do
  match ← g.draw with
  | (.error e, g) => .ok (.error e, g)
  | (.ok high, g) =>
    match ← g.draw with
    | (.error e, g) => .ok (.error e, g)
    | (.ok low, g) =>
      let numerator := (high >>> (5 : Nat)) * 0x4000000 + (low >>> (6 : Nat))
      .ok (.ok (Double.ofRatio false numerator.toNat 0x20000000000000), g)

/-- Ask for an operation. -/
def perform [Memory] (op : Operation) (g : Dual σ) : Except Break (Option (Except Failure Answer × Dual σ)) :=
  match op with
  | .setSeed seed =>
    match seed.asIndex with
    | .ok seed => .ok (some (.ok .nothing, g.setSeed seed))
    | .error e => .ok (some (.error e, g))
  | .next => do
    let (r, g) ← g.draw
    .ok (some (r.map .number, g))
  | .fill count =>
    match Generator.fillCount g.mode count with
    | .ok n => do
      let (r, g) ← g.fill n
      .ok (some (r.map .numbers, g))
    | .error e => .ok (some (.error e, g))
  | .below bound =>
    match Generator.boundOf bound with
    | .ok (.whole n) => do
      let found ← g.below n
      .ok (found.map fun r => (r.1.map .number, r.2))
    | .ok (.real num den) => do
      let found ← g.belowReal num den
      .ok (found.map fun r => (r.1.map .real, r.2))
    | .error e => .ok (some (.error e, g))
  | .fraction => do
    let (r, g) ← g.fraction
    .ok (some (r.map .real, g))

/-- Ask for operations one after another, also after a failure. There is no answer only if a bound accepts
    no number that is drawn. -/
def performAll [Memory] (ops : List Operation) (g : Dual σ) :
    Except Break (Option (List (Except Failure Answer) × Dual σ)) :=
  match ops with
  | [] => .ok (some ([], g))
  | op :: rest => do
    match ← g.perform op with
    | none => .ok none
    | some (answer, g) =>
      let later ← performAll rest g
      .ok (later.map fun r => (answer :: r.1, r.2))

end Dual

end SeedStream.Wide
