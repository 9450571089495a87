import SeedStream.Double.Shortest

/-!
# Doubles with a fixed number of digits

The exact value of a double rounded to a number of places behind the point, or to a number of
digits with an exponent. A half goes to the even neighbour.
-/

namespace SeedStream.Double

/-- Put a decimal point before the last `places` digits of a numeral. -/
def insertPoint (places : Nat) (digits : List Char) : List Char :=
  let padded := Numeral.padZeros (places + 1) digits
  let whole := padded.length - places
  if places = 0 then padded else padded.take whole ++ '.' :: padded.drop whole

/-- A double with `places` digits behind the point. -/
def fixed (places : Nat) (x : Float) : List Char :=
  match parts x with
  | .nan => ['n', 'a', 'n']
  | .infinite negative => signText negative ++ ['i', 'n', 'f']
  | .finite negative m q =>
    let (num, den) := sizeRatio m q
    signText negative ++ insertPoint places (Numeral.decimal (roundDiv (num * Nat.pow 10 places) den))

/-- A positive quotient rounded to `count` digits: the digits as a number and the point. -/
def roundDigits (count : Nat) (num den : Nat) : Nat × Int :=
  let point := pointOf num den
  let c :=
    match (point - count : Int) with
    | .ofNat k => roundDiv num (den * Nat.pow 10 k)
    | .negSucc k => roundDiv (num * Nat.pow 10 (k + 1)) den
  if c = Nat.pow 10 count then (Nat.pow 10 (count - 1), point + 1) else (c, point)

/-- A double with one digit before and `places` behind the point, and an exponent. -/
def scientific (places : Nat) (x : Float) : List Char :=
  match parts x with
  | .nan => ['n', 'a', 'n']
  | .infinite negative => signText negative ++ ['i', 'n', 'f']
  | .finite negative m q =>
    let (num, den) := sizeRatio m q
    let (c, point) := if m = 0 then (0, 1) else roundDigits (places + 1) num den
    signText negative ++ insertPoint places (Numeral.decimal c) ++ 'e' :: exponentText (point - 1)

end SeedStream.Double
