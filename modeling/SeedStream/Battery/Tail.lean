/-!
# Tails of distributions

The probability that a normal variable lies far from its mean on either side, and that a sum of
255 squares of normal variables exceeds a bound. Both are computed in doubles: a power series near
the mean and a continued fraction in the tail. A tail below the smallest doubles is zero.
-/

namespace SeedStream.Battery

/-- The logarithm of the largest double. -/
def largestLog : Float := 709.782712893384

/-- The sum of a series whose terms `next` makes from one another, as far as they count. -/
def series (next : Nat → Float → Float) : Nat → Nat → Float → Float → Float
  | 0, _, _, sum => sum
  | fuel + 1, k, term, sum =>
    let term := next k term
    let total := sum + term
    if total == sum then sum else series next fuel (k + 1) term total

/-- The error function near zero: `2 / √π * x * e ^ (-x²)` times a series in `2 x²`. -/
def errorNearZero (x : Float) : Float :=
  let sum := series (fun k term => term * 2.0 * x * x / (2.0 * k.toFloat + 1.0)) 500 1 1.0 1.0
  1.1283791670955126 * x * Float.exp (-(x * x)) * sum

/-- The continued fraction `x + (k/2) / (x + ((k+1)/2) / …)`, cut after `fuel` steps. -/
def errorFraction (x : Float) : Nat → Nat → Float
  | 0, _ => x
  | fuel + 1, k => x + (k.toFloat / 2.0) / errorFraction x fuel (k + 1)

/-- The complement of the error function for a number that is not negative. -/
def errorComplement (x : Float) : Float :=
  if x < 2.0 then 1.0 - errorNearZero x
  else if largestLog < x * x then 0.0
  else Float.exp (-(x * x)) / 1.7724538509055160 / errorFraction x 200 1

/-- The probability that a normal variable lies at least `z` deviations from its mean. -/
def normalTails (z : Float) : Float :=
  errorComplement (z * 0.7071067811865476)

/-- Half of the degrees of freedom of the byte statistic. -/
def shape : Float := 127.5

/-- The logarithm of the gamma function at `shape`. -/
def logGamma : Float := 489.1303704306428

/-- The continued fraction of the upper incomplete gamma function, cut after `fuel` steps. -/
def gammaFraction (x : Float) : Nat → Nat → Float
  | 0, k => x + 2.0 * k.toFloat + 1.0 - shape
  | fuel + 1, k =>
    let n := k.toFloat + 1.0
    x + 2.0 * k.toFloat + 1.0 - shape - n * (n - shape) / gammaFraction x fuel (k + 1)

/-- The probability that the byte statistic exceeds a bound. -/
def byteTail (stat : Float) : Float :=
  let x := stat / 2.0
  if x <= 0.0 then 1.0
  else
    let logScale := shape * Float.log x - x - logGamma
    if logScale < -largestLog then if x < shape then 1.0 else 0.0
    else
      let scale := Float.exp logScale
      if x < shape + 1.0 then
        1.0 - scale * series (fun k term => term * x / (shape + k.toFloat)) 5000 1 (1.0 / shape)
          (1.0 / shape)
      else scale / gammaFraction x 400 0

end SeedStream.Battery
