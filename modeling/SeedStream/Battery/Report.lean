import SeedStream.Argument
import SeedStream.Battery.Counts
import SeedStream.Battery.Tail
import SeedStream.Sample

/-!
# The battery

A quick check of a sample of words: are half of its bits one, are all bytes equally likely, and is
every single bit balanced? The first two give probabilities that must reach a level `alpha`. The
third compares the greatest deviation of a bit's mean from one half with five standard deviations
of a fair coin. The probabilities themselves are not the battery's: it asks for them.
-/

namespace SeedStream.Battery

/-- Arithmetic in which deviations are measured. -/
class Scale (α : Type) where
  ofNat : Nat → α
  sub : α → α → α
  div : α → α → α
  abs : α → α
  sqrt : α → α
  max : α → α → α
  /-- One is no greater than the other. -/
  le : α → α → Bool

instance : Scale Float where
  ofNat := Nat.toFloat
  sub := (· - ·)
  div := (· / ·)
  abs := Float.abs
  sqrt := Float.sqrt
  max a b := if a < b then b else a
  le a b := a <= b

section

variable (α : Type) [Scale α]

/-- The mean of a bit that is one in `k` of `n` words. -/
def bitMean (n k : Nat) : α :=
  Scale.div (Scale.ofNat k) (Scale.ofNat n)

/-- How far the mean of a bit lies from one half. -/
def bitBias (n k : Nat) : α :=
  Scale.abs (Scale.sub (bitMean α n k) (Scale.div (Scale.ofNat 1) (Scale.ofNat 2)))

/-- The deviations of the bits of a sample, bit zero first. -/
def biases (ws : List Word) : List α :=
  (bitCounts ws).map (bitBias α ws.length)

/-- The greatest deviation of a bit of a sample. -/
def maxBias (ws : List Word) : α :=
  (biases α ws).foldl Scale.max (Scale.ofNat 0)

/-- Five standard deviations of the mean of `n` throws of a fair coin. -/
def biasLimit (n : Nat) : α :=
  Scale.div (Scale.div (Scale.ofNat 5) (Scale.ofNat 2)) (Scale.sqrt (Scale.ofNat n))

/-- A sample passes if its ones and its bytes are probable enough and no bit deviates too far. -/
def passes (probable even : Bool) (ws : List Word) : Bool :=
  probable && even && Scale.le (maxBias α ws) (biasLimit α ws.length)

end

/-- How far the ones of a sample lie from half of its bits, in standard deviations. -/
def onesDeviation (total ones : Nat) : Float :=
  (ones.toFloat - total.toFloat / 2.0) / Float.sqrt (total.toFloat / 4.0)

/-- What the battery asks about distributions. -/
structure Distributions where
  /-- The probability that a normal variable exceeds a bound. -/
  normalTail : Float → Float
  /-- How far counts lie from equal ones, and how probable it is that they lie so far apart. -/
  chiSquare : List Nat → Float × Float

/-- The byte statistic: the sum of squared deviations from equal counts over the equal count. For
    `n` bytes it is `256 * Σ c² / n - n`, which is rounded once. -/
def byteStatistic (counts : List Nat) : Float :=
  let n := counts.foldl (· + ·) 0
  let squares := counts.foldl (fun n c => n + c * c) 0
  Double.ofRatio false (256 * squares - n * n) n

/-- Distributions by series and continued fractions. -/
def Distributions.computed : Distributions where
  normalTail z := normalTails z / 2.0
  chiSquare counts := (byteStatistic counts, byteTail (byteStatistic counts))

/-- What the battery finds. -/
structure Report where
  samples : Nat
  onesFraction : Float
  /-- The probability of so uneven a number of ones. -/
  monobit : Float
  byteStat : Float
  /-- The probability of so uneven a histogram. -/
  byteProb : Float
  maxBias : Float
  biasLimit : Float
  /-- The level as it was given. -/
  alpha : Value
  passed : Bool

/-- The level unless another one is asked for. -/
def defaultAlpha : Float := 0.001

/-- A probability reaches a level. -/
def reaches (p : Float) (alpha : Value) : Except Failure Bool :=
  match alpha with
  | .real a => .ok (a <= p)
  | .bool _ | .int _ => do
    let i ← alpha.asIndex
    let order := (Value.real p).compareInt? i
    return order == some .gt || order == some .eq
  | _ => .error (.kind (.order .greaterOrEqual .real alpha.kind))

/-- Run the battery on a sample that has a word at least. -/
def run (known : Distributions) (ws : List Word) (alpha : Value) : Except Failure Report := do
  let n := ws.length
  let ones := ones ws
  let monobit := 2.0 * known.normalTail (onesDeviation (32 * n) ones).abs
  let (byteStat, byteProb) := known.chiSquare (histogram ws).toList
  let maxBias := maxBias Float ws
  let limit := biasLimit Float n
  let probable ← reaches monobit alpha
  let even ← if probable then reaches byteProb alpha else .ok false
  return ⟨n, Double.ofRatio false ones (32 * n), monobit, byteStat, byteProb, maxBias, limit, alpha,
    passes Float probable even ws⟩

/-! ## With arguments as a caller gives them -/

/-- The deviations of the bits of a sample. -/
def biasesOf (values : Value) : Except Failure (List Float) := do
  return biases Float (← Sample.nonempty values)

/-- Run the battery, if its mathematics is installed. -/
def runOn (known : Option Distributions) (values alpha : Value) : Except Failure Report := do
  match known with
  | none => .error (.missing .statistics)
  | some known => run known (← Sample.nonempty values) alpha

end SeedStream.Battery
